import BroadcastGuide.Octets
import BroadcastGuide.Text.Markup

/-!
Language codes. Broadcasts name a language by three letters; the guide names it by two where the
two-letter standard has it.
-/

namespace BroadcastGuide.Language

/-- Three-letter codes, in both of their forms, and the two-letter codes. -/
def codes : List (String × String) :=
  [("aar", "aa"), ("abk", "ab"), ("afr", "af"), ("alb", "sq"), ("sqi", "sq"), ("amh", "am"),
    ("ara", "ar"), ("arm", "hy"), ("hye", "hy"), ("asm", "as"), ("aze", "az"), ("bak", "ba"),
    ("baq", "eu"), ("eus", "eu"), ("bel", "be"), ("ben", "bn"), ("bos", "bs"), ("bre", "br"),
    ("bul", "bg"), ("bur", "my"), ("mya", "my"), ("cat", "ca"), ("chi", "zh"), ("zho", "zh"),
    ("cor", "kw"), ("cos", "co"), ("cym", "cy"), ("wel", "cy"), ("cze", "cs"), ("ces", "cs"),
    ("dan", "da"), ("dut", "nl"), ("nld", "nl"), ("dzo", "dz"), ("eng", "en"), ("epo", "eo"),
    ("est", "et"), ("fao", "fo"), ("fin", "fi"), ("fre", "fr"), ("fra", "fr"), ("fry", "fy"),
    ("geo", "ka"), ("kat", "ka"), ("ger", "de"), ("deu", "de"), ("gla", "gd"), ("gle", "ga"),
    ("glg", "gl"), ("glv", "gv"), ("gre", "el"), ("ell", "el"), ("grn", "gn"), ("guj", "gu"),
    ("hau", "ha"), ("heb", "he"), ("hin", "hi"), ("hrv", "hr"), ("scr", "hr"), ("hun", "hu"),
    ("ice", "is"), ("isl", "is"), ("ind", "id"), ("ita", "it"), ("jpn", "ja"), ("kal", "kl"),
    ("kan", "kn"), ("kas", "ks"), ("kaz", "kk"), ("khm", "km"), ("kir", "ky"), ("kor", "ko"),
    ("kur", "ku"), ("lao", "lo"), ("lat", "la"), ("lav", "lv"), ("lit", "lt"), ("ltz", "lb"),
    ("mac", "mk"), ("mkd", "mk"), ("mal", "ml"), ("mao", "mi"), ("mri", "mi"), ("mar", "mr"),
    ("may", "ms"), ("msa", "ms"), ("mlt", "mt"), ("mol", "mo"), ("mon", "mn"), ("nep", "ne"),
    ("nno", "nn"), ("nob", "nb"), ("nor", "no"), ("oci", "oc"), ("ori", "or"), ("per", "fa"),
    ("fas", "fa"), ("pol", "pl"), ("por", "pt"), ("pus", "ps"), ("que", "qu"), ("roh", "rm"),
    ("rum", "ro"), ("ron", "ro"), ("rus", "ru"), ("san", "sa"), ("scc", "sr"), ("srp", "sr"),
    ("sin", "si"), ("slo", "sk"), ("slk", "sk"), ("slv", "sl"), ("sme", "se"), ("som", "so"),
    ("spa", "es"), ("esl", "es"), ("swa", "sw"), ("swe", "sv"), ("sve", "sv"), ("tam", "ta"),
    ("tat", "tt"), ("tel", "te"), ("tgk", "tg"), ("tgl", "tl"), ("tha", "th"), ("tib", "bo"),
    ("bod", "bo"), ("tur", "tr"), ("tuk", "tk"), ("uig", "ug"), ("ukr", "uk"), ("urd", "ur"),
    ("uzb", "uz"), ("vie", "vi"), ("wln", "wa"), ("yid", "yi"), ("yor", "yo"), ("zul", "zu")]

/-- The two-letter code, or the code itself where none is known. -/
def short (code : String) : String := (codes.lookup (code.map Char.toLower)).getD code

/-- Characters of Latin-1 that show on a page. -/
def isPrintable (b : UInt8) : Bool :=
  let n := b.toNat
  !(n < 0x20 || (0x7F ≤ n && n ≤ 0xA0) || n == 0xAD)

/-- The language that code bytes name, safe inside an attribute. -/
def ofBytes (raw : Octets) : String :=
  let code := (raw.filter isPrintable).map fun b => Char.ofNat b.toNat
  Text.escapeAttribute (short (String.ofList code))

end BroadcastGuide.Language
