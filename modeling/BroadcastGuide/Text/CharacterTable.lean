import BroadcastGuide.Text.DoubleByte
import BroadcastGuide.Text.Iso8859
import BroadcastGuide.Text.Latin
import BroadcastGuide.Text.Unicode

/-!
The character tables that a text field may be written in, their names, and their decoders. Each
piece that a table cannot decode becomes the replacement character.
-/

namespace BroadcastGuide.Text

structure IsoPart where
  number : Nat
  published : (Iso8859.upper? number).isSome
  deriving DecidableEq

namespace IsoPart

def ofNumber? (n : Nat) : Option IsoPart :=
  if h : (Iso8859.upper? n).isSome then some ⟨n, h⟩ else none

def upper (p : IsoPart) : List Nat := (Iso8859.upper? p.number).get p.published

end IsoPart

/-- A character table: its name, and the text of a field body that is written in it. -/
structure CharacterTable where
  name : String
  decode : Octets → List Char

namespace CharacterTable

/-- Latin letters with marks before them, for text that selects no table. -/
def latin : CharacterTable := ⟨"dvb-latin", Latin.decode⟩

def ascii : CharacterTable :=
  ⟨"ascii", List.map fun b => if b.toNat < 0x80 then Char.ofNat b.toNat else malformed⟩

def iso8859 (part : IsoPart) : CharacterTable :=
  ⟨"iso8859_" ++ toString part.number, Iso8859.decode part.upper⟩

def utf8 : CharacterTable := ⟨"utf_8", Utf8.decode⟩

def utf16 : CharacterTable := ⟨"utf_16_be", Utf16.decode⟩

def korean : CharacterTable := ⟨"euc_kr", DoubleByte.decodeKorean⟩

def simplifiedChinese : CharacterTable :=
  ⟨"gb2312", DoubleByte.decode DoubleByte.simplifiedChinese?⟩

def traditionalChinese : CharacterTable :=
  ⟨"big5", DoubleByte.decode DoubleByte.traditionalChinese?⟩

def regional : List CharacterTable :=
  [ascii, korean, simplifiedChinese, traditionalChinese] ++
    (List.range 17).filterMap fun n => (IsoPart.ofNumber? n).map iso8859

def selectable : List CharacterTable := [utf8, utf16] ++ regional

def aliases : List (String × String) :=
  [("iso8859_1", "iso8859_1"), ("646", "ascii"), ("8859", "iso8859_1"),
    ("ansi_x3.4_1968", "ascii"), ("ansi_x3.4_1986", "ascii"), ("ansi_x3_4_1968", "ascii"),
    ("arabic", "iso8859_6"), ("asmo_708", "iso8859_6"), ("big5_tw", "big5"), ("chinese", "gb2312"),
    ("cp367", "ascii"), ("cp65001", "utf_8"), ("cp819", "iso8859_1"), ("csascii", "ascii"),
    ("csbig5", "big5"), ("csiso58gb231280", "gb2312"), ("csisolatin1", "iso8859_1"),
    ("csisolatin2", "iso8859_2"), ("csisolatin3", "iso8859_3"), ("csisolatin4", "iso8859_4"),
    ("csisolatin5", "iso8859_9"), ("csisolatin6", "iso8859_10"), ("csisolatinarabic", "iso8859_6"),
    ("csisolatincyrillic", "iso8859_5"), ("csisolatingreek", "iso8859_7"),
    ("csisolatinhebrew", "iso8859_8"), ("cyrillic", "iso8859_5"), ("ecma_114", "iso8859_6"),
    ("ecma_118", "iso8859_7"), ("elot_928", "iso8859_7"), ("euc_cn", "gb2312"),
    ("euccn", "gb2312"), ("eucgb2312_cn", "gb2312"), ("euckr", "euc_kr"),
    ("gb2312_1980", "gb2312"), ("gb2312_80", "gb2312"), ("greek", "iso8859_7"),
    ("greek8", "iso8859_7"), ("hebrew", "iso8859_8"), ("ibm367", "ascii"), ("ibm819", "iso8859_1"),
    ("iso646_us", "ascii"), ("iso8859", "iso8859_1"), ("iso_646.irv_1991", "ascii"),
    ("iso_8859_1", "iso8859_1"), ("iso_8859_10", "iso8859_10"), ("iso_8859_10_1992", "iso8859_10"),
    ("iso_8859_11", "iso8859_11"), ("iso_8859_11_2001", "iso8859_11"),
    ("iso_8859_13", "iso8859_13"), ("iso_8859_14", "iso8859_14"),
    ("iso_8859_14_1998", "iso8859_14"), ("iso_8859_15", "iso8859_15"),
    ("iso_8859_16", "iso8859_16"), ("iso_8859_16_2001", "iso8859_16"),
    ("iso_8859_1_1987", "iso8859_1"), ("iso_8859_2", "iso8859_2"),
    ("iso_8859_2_1987", "iso8859_2"), ("iso_8859_3", "iso8859_3"),
    ("iso_8859_3_1988", "iso8859_3"), ("iso_8859_4", "iso8859_4"),
    ("iso_8859_4_1988", "iso8859_4"), ("iso_8859_5", "iso8859_5"),
    ("iso_8859_5_1988", "iso8859_5"), ("iso_8859_6", "iso8859_6"),
    ("iso_8859_6_1987", "iso8859_6"), ("iso_8859_7", "iso8859_7"),
    ("iso_8859_7_1987", "iso8859_7"), ("iso_8859_8", "iso8859_8"),
    ("iso_8859_8_1988", "iso8859_8"), ("iso_8859_9", "iso8859_9"),
    ("iso_8859_9_1989", "iso8859_9"), ("iso_celtic", "iso8859_14"), ("iso_ir_100", "iso8859_1"),
    ("iso_ir_101", "iso8859_2"), ("iso_ir_109", "iso8859_3"), ("iso_ir_110", "iso8859_4"),
    ("iso_ir_126", "iso8859_7"), ("iso_ir_127", "iso8859_6"), ("iso_ir_138", "iso8859_8"),
    ("iso_ir_144", "iso8859_5"), ("iso_ir_148", "iso8859_9"), ("iso_ir_157", "iso8859_10"),
    ("iso_ir_199", "iso8859_14"), ("iso_ir_226", "iso8859_16"), ("iso_ir_58", "gb2312"),
    ("iso_ir_6", "ascii"), ("korean", "euc_kr"), ("ks_c_5601", "euc_kr"),
    ("ks_c_5601_1987", "euc_kr"), ("ks_x_1001", "euc_kr"), ("ksc5601", "euc_kr"),
    ("ksx1001", "euc_kr"), ("l1", "iso8859_1"), ("l10", "iso8859_16"), ("l2", "iso8859_2"),
    ("l3", "iso8859_3"), ("l4", "iso8859_4"), ("l5", "iso8859_9"), ("l6", "iso8859_10"),
    ("l7", "iso8859_13"), ("l8", "iso8859_14"), ("l9", "iso8859_15"), ("latin", "iso8859_1"),
    ("latin1", "iso8859_1"), ("latin10", "iso8859_16"), ("latin2", "iso8859_2"),
    ("latin3", "iso8859_3"), ("latin4", "iso8859_4"), ("latin5", "iso8859_9"),
    ("latin6", "iso8859_10"), ("latin7", "iso8859_13"), ("latin8", "iso8859_14"),
    ("latin9", "iso8859_15"), ("thai", "iso8859_11"), ("u8", "utf_8"),
    ("unicodebigunmarked", "utf_16_be"), ("us", "ascii"), ("us_ascii", "ascii"), ("utf", "utf_8"),
    ("utf8", "utf_8"), ("utf8_ucs2", "utf_8"), ("utf8_ucs4", "utf_8"), ("utf_16be", "utf_16_be"),
    ("x_mac_korean", "euc_kr"), ("x_mac_simp_chinese", "gb2312"), ("x_mac_trad_chinese", "big5")]

/-- Letters of a name in lower case, with one underscore for each run of other characters inside. -/
def normalizeName : Bool → List Char → List Char
  | _, [] => []
  | gap, c :: rest =>
    if c.isAlphanum || c == '.' then
      if gap then '_' :: c.toLower :: normalizeName false rest
      else c.toLower :: normalizeName false rest
    else normalizeName true rest

/-- The full name of the table that a user names, which has no other spelling with points. In
aliases a point may stand for an underscore. -/
def fullName (name : String) : String :=
  let normal := normalizeName false (name.toList.dropWhile fun c => !(c.isAlphanum || c == '.'))
  let plain := String.ofList normal
  let pointless := String.ofList (normal.map fun c => if c = '.' then '_' else c)
  let full := ((aliases.lookup plain).or (aliases.lookup pointless)).getD plain
  if full = "latin_1" then "iso8859_1" else full

end CharacterTable

end BroadcastGuide.Text
