import BroadcastGuide.Text.CharacterTable

/-!
Codecs that a user may name for text that selects no table. Unlike a table, a codec may refuse a
field for good, and may give halves of surrogate pairs, which are no characters.
-/

namespace BroadcastGuide.Text

/-- A code point of a decoded text. -/
inductive CodePoint
  | char (c : Char)
  /-- Half of a surrogate pair, by its place among the halves. -/
  | surrogate (place : Fin 0x800)
  deriving DecidableEq, Repr

namespace CodePoint

/-- A code point in a text of characters, where the replacement character stands for a half. -/
def shown : CodePoint → Char
  | char c => c
  | surrogate _ => malformed

@[simp]
theorem map_shown_char (chars : List Char) : (chars.map char).map shown = chars := by
  rw [List.map_map]
  exact List.map_id chars

end CodePoint

structure CodecFault where
  kind : String
  message : String
  deriving DecidableEq, Repr

structure Codec where
  name : String
  decode : Octets → Except CodecFault (List CodePoint)

def CharacterTable.codec (table : CharacterTable) : Codec :=
  ⟨table.name, fun bytes => .ok ((table.decode bytes).map .char)⟩

namespace Codec

/-- A codec as a table of characters. What the codec refuses is empty. -/
def table (c : Codec) : CharacterTable :=
  ⟨c.name, fun bytes =>
    match c.decode bytes with
    | .ok s => s.map CodePoint.shown
    | .error _ => []⟩

def IsTotal (c : Codec) : Prop := ∀ bytes, ∃ s, c.decode bytes = .ok s

end Codec

theorem CharacterTable.codec_isTotal (table : CharacterTable) : table.codec.IsTotal :=
  fun _ => ⟨_, rfl⟩

theorem CharacterTable.table_codec (table : CharacterTable) : table.codec.table = table := by
  simp only [codec, Codec.table, CodePoint.map_shown_char]

inductive NameFault
  | unknown
  /-- The name holds a null character. -/
  | null
  deriving DecidableEq, Repr

def NameFault.message (name : String) : NameFault → String
  | .unknown => "unknown encoding: " ++ name
  | .null => "embedded null character"

/-- The codecs that names stand for. A table that a field can select has its own name there, and the
table of text that selects none has not. -/
structure Registry where
  lookup : String → Except NameFault Codec
  lookup_selectable : ∀ table ∈ CharacterTable.selectable, lookup table.name = .ok table.codec
  lookup_latin : lookup CharacterTable.latin.name = .error .unknown

namespace Codec

/-- A codec that knows no replacement character. -/
def idna : Codec :=
  ⟨"idna", fun _ => .error ⟨"UnicodeError", "Unsupported error handling replace"⟩⟩

/-- A codec that is there to refuse. -/
def undefined : Codec := ⟨"undefined", fun _ => .error ⟨"UnicodeError", "undefined encoding"⟩⟩

def refusing : List Codec := [idna, undefined]

end Codec

namespace Registry

open CharacterTable (selectable fullName)

def codecs : List Codec := selectable.map CharacterTable.codec ++ Codec.refusing

def find (name : String) : Except NameFault Codec :=
  if name.toList.contains (Char.ofNat 0) then .error .null
  else
    match codecs.find? (·.name == fullName name) with
    | some codec => .ok codec
    | none => .error .unknown

theorem find?_name {codecs : List Codec} (distinct : (codecs.map (·.name)).Nodup) {c : Codec}
    (h : c ∈ codecs) : codecs.find? (·.name == c.name) = some c := by
  induction codecs with
  | nil => cases h
  | cons first rest ih =>
    rw [List.map_cons] at distinct
    obtain ⟨hfirst, hrest⟩ := List.nodup_cons.mp distinct
    rcases List.mem_cons.mp h with rfl | h
    · simp
    · have hne : first.name ≠ c.name := by
        intro heq
        rw [heq] at hfirst
        exact hfirst (List.mem_map_of_mem h)
      rw [List.find?_cons_of_neg (by simpa using hne)]
      exact ih hrest h

/-- A full name stands for itself. -/
theorem isFull : (codecs.map (·.name)).all
    (fun name => fullName name == name && !name.toList.contains (Char.ofNat 0)) = true := by
  decide +kernel

theorem find_of_mem {c : Codec} (h : c ∈ codecs) : find c.name = .ok c := by
  have hfull := List.all_eq_true.mp isFull c.name (List.mem_map_of_mem h)
  rw [Bool.and_eq_true, beq_iff_eq, Bool.not_eq_true'] at hfull
  rw [find, if_neg (by rw [hfull.2]; decide), hfull.1, find?_name (by decide +kernel) h]

/-- The codecs of this library by all their names. -/
def known : Registry where
  lookup := find
  lookup_selectable _ h := find_of_mem (List.mem_append_left _ (List.mem_map_of_mem h))
  lookup_latin := by
    have hcodecs : codecs.find? (·.name == fullName CharacterTable.latin.name) = none :=
      Option.isNone_iff_eq_none.mp (by decide +kernel)
    rw [find, if_neg (by decide +kernel), hcodecs]

theorem lookup_idna : known.lookup "idna" = .ok Codec.idna :=
  find_of_mem (List.mem_append_right _ List.mem_cons_self)

end Registry

end BroadcastGuide.Text
