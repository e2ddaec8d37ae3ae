import BroadcastGuide.Octets

/-!
The default table: Latin letters, with bytes C1 to CF for the marks that are sent before the letter
they belong to. A mark and its letter become one character where Unicode has one.
-/

namespace BroadcastGuide.Text.Latin

/-- The places from A0 on; zero stands for an unassigned place. -/
def upper : List Nat :=
  [0x00A0, 0x00A1, 0x00A2, 0x00A3, 0x20AC, 0x00A5, 0x0023, 0x00A7,
    0x00A4, 0x2018, 0x201C, 0x00AB, 0x2190, 0x2191, 0x2192, 0x2193,
    0x00B0, 0x00B1, 0x00B2, 0x00B3, 0x00D7, 0x00B5, 0x00B6, 0x00B7,
    0x00F7, 0x2019, 0x201D, 0x00BB, 0x00BC, 0x00BD, 0x00BE, 0x00BF,
    0x0000, 0x0000, 0x0000, 0x0000, 0x0000, 0x0000, 0x0000, 0x0000,
    0x0000, 0x0000, 0x0000, 0x0000, 0x0000, 0x0000, 0x0000, 0x0000,
    0x2015, 0x00B9, 0x00AE, 0x00A9, 0x2122, 0x266A, 0x00AC, 0x00A6,
    0x0000, 0x0000, 0x0000, 0x0000, 0x215B, 0x215C, 0x215D, 0x215E,
    0x03A9, 0x00C6, 0x0110, 0x00AA, 0x0126, 0x0000, 0x0132, 0x013F,
    0x0141, 0x00D8, 0x0152, 0x00BA, 0x00DE, 0x0166, 0x014A, 0x0149,
    0x0138, 0x00E6, 0x0111, 0x00F0, 0x0127, 0x0131, 0x0133, 0x0140,
    0x0142, 0x00F8, 0x0153, 0x00DF, 0x00FE, 0x0167, 0x014B, 0x00AD]

/-- The combining mark that a byte announces. -/
def mark? : Nat → Option Char
  | 0xC1 => some '\u0300'
  | 0xC2 => some '\u0301'
  | 0xC3 => some '\u0302'
  | 0xC4 => some '\u0303'
  | 0xC5 => some '\u0304'
  | 0xC6 => some '\u0306'
  | 0xC7 => some '\u0307'
  | 0xC8 => some '\u0308'
  | 0xCA => some '\u030a'
  | 0xCB => some '\u0327'
  | 0xCD => some '\u030b'
  | 0xCE => some '\u0328'
  | 0xCF => some '\u030c'
  | _ => none

/-- Letters and their composed forms, in turn, for one mark. -/
def composed : Char → String
  | '\u0300' =>
    "AÀEÈIÌNǸOÒUÙWẀYỲaàeèiìnǹoòuùwẁyỳΩῺ"
  | '\u0301' =>
    "AÁCĆEÉGǴIÍKḰLĹMḾNŃOÓPṔRŔSŚUÚWẂYÝZŹaácćeégǵiíkḱlĺmḿnńoópṕrŕsśuúwẃyýzźΩΏÆǼØǾæǽøǿ"
  | '\u0302' =>
    "AÂCĈEÊGĜHĤIÎJĴOÔSŜUÛWŴYŶZẐaâcĉeêgĝhĥiîjĵoôsŝuûwŵyŷzẑ"
  | '\u0303' =>
    "AÃEẼIĨNÑOÕUŨVṼYỸaãeẽiĩnñoõuũvṽyỹ"
  | '\u0304' =>
    "AĀEĒGḠIĪOŌUŪYȲaāeēgḡiīoōuūyȳÆǢæǣ"
  | '\u0306' =>
    "AĂEĔGĞIĬOŎUŬaăeĕgğiĭoŏuŭ"
  | '\u0307' =>
    "AȦBḂCĊDḊEĖFḞGĠHḢIİMṀNṄOȮPṖRṘSṠTṪWẆXẊYẎZŻaȧbḃcċdḋeėfḟgġhḣmṁnṅoȯpṗrṙsṡtṫwẇxẋyẏzż"
  | '\u0308' =>
    "AÄEËHḦIÏOÖUÜWẄXẌYŸaäeëhḧiïoötẗuüwẅxẍyÿ"
  | '\u030a' =>
    "AÅUŮaåuůwẘyẙ"
  | '\u0327' =>
    "CÇDḐEȨGĢHḨKĶLĻNŅRŖSŞTŢcçdḑeȩgģhḩkķlļnņrŗsştţ"
  | '\u030b' =>
    "OŐUŰoőuű"
  | '\u0328' =>
    "AĄEĘIĮOǪUŲaąeęiįoǫuų"
  | '\u030c' =>
    "AǍCČDĎEĚGǦHȞIǏKǨLĽNŇOǑRŘSŠTŤUǓZŽaǎcčdďeěgǧhȟiǐjǰkǩlľnňoǒrřsštťuǔzž"
  | _ => ""

def findComposed (letter : Char) : List Char → Option Char
  | base :: whole :: rest => if base = letter then some whole else findComposed letter rest
  | _ => none

/-- A letter and its mark, as one character if there is one. -/
def compose (letter mark : Char) : List Char :=
  match findComposed letter (composed mark).toList with
  | some whole => [whole]
  | none => [letter, mark]

def char? (b : UInt8) : Option Char :=
  if b.toNat < 0xA0 then some (Char.ofNat b.toNat)
  else
    match upper.getD (b.toNat - 0xA0) 0 with
    | 0 => none
    | n => some (Char.ofNat n)

def isMark (b : UInt8) : Bool := 0xC0 ≤ b.toNat && b.toNat ≤ 0xCF

/-- What a byte outside the marks gives after a pending mark. An unassigned place gives nothing. -/
def place (pending : Option Char) (b : UInt8) : List Char :=
  match char? b, pending with
  | none, _ => []
  | some c, none => [c]
  | some c, some mark => compose c mark

/-- Decodes with a mark pending. A later mark takes the place of an earlier one, and every other
byte uses it up. -/
def decodeFrom (pending : Option Char) : Octets → List Char
  | [] => []
  | b :: rest =>
    if isMark b then decodeFrom (mark? b.toNat) rest
    else place pending b ++ decodeFrom none rest

def decode (bytes : Octets) : List Char := decodeFrom none bytes

end BroadcastGuide.Text.Latin
