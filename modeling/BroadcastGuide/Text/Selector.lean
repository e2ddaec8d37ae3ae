import BroadcastGuide.DecodeError
import BroadcastGuide.Text.Codec

/-!
The selector at the head of a text field, which tells the table of the rest.
-/

namespace BroadcastGuide.Text

/-- What the head of a field says about its table. -/
inductive Selection
  /-- The field starts with a printable character, and the default table holds. -/
  | byDefault
  /-- The table is selected by the first bytes, which are no part of the text. -/
  | selected (table : CharacterTable) (skip : Nat)

/-- The part of ISO 8859 that a long selector names; the last part has no selector. -/
def longPart? (n : Nat) : Option IsoPart := if n < 16 then IsoPart.ofNumber? n else none

def shortPart? : Nat → Option Nat
  | 0x01 => some 5
  | 0x02 => some 6
  | 0x03 => some 7
  | 0x04 => some 8
  | 0x05 => some 9
  | 0x06 => some 10
  | 0x07 => some 11
  | 0x09 => some 13
  | 0x0A => some 14
  | 0x0B => some 15
  | _ => none

def shortTable? (n : Nat) : Option CharacterTable :=
  match n with
  | 0x11 => some .utf16
  | 0x12 => some .korean
  | 0x13 => some .simplifiedChinese
  | 0x14 => some .traditionalChinese
  | 0x15 => some .utf8
  | n => ((shortPart? n).bind IsoPart.ofNumber?).map .iso8859

def selectAfter (first : UInt8) (rest : Octets) : Except DecodeError Selection :=
  if 0x20 ≤ first.toNat then .ok .byDefault
  else if first.toNat = 0x10 then
    match rest with
    | high :: low :: _ =>
      match longPart? (Octets.word high low) with
      | some part => .ok (.selected (.iso8859 part) 3)
      | none => .error (.unassignedPart (Octets.word high low))
    | _ => .error .partSelectorTooShort
  else
    match shortTable? first.toNat with
    | some table => .ok (.selected table 1)
    | none => .error (.reservedSelector first.toNat)

theorem mem_regional_iso8859 (part : IsoPart) :
    CharacterTable.iso8859 part ∈ CharacterTable.regional := by
  obtain ⟨n, published⟩ := part
  have hlt : n < 17 := by
    refine Nat.lt_of_not_le fun hge => ?_
    have hnone : Iso8859.upper? n = none := by
      unfold Iso8859.upper?
      split <;> first | rfl | omega
    rw [hnone] at published
    cases published
  refine List.mem_append_right _ (List.mem_filterMap.mpr ⟨n, List.mem_range.mpr hlt, ?_⟩)
  rw [IsoPart.ofNumber?, dif_pos published]
  rfl

/-- What a field selects is a table that has a name for users as well. -/
theorem mem_selectable_of_selectAfter {first : UInt8} {rest : Octets} {table : CharacterTable}
    {skip : Nat} (h : selectAfter first rest = .ok (.selected table skip)) :
    table ∈ CharacterTable.selectable := by
  have hshort : ∀ n, shortTable? n = some table → table ∈ CharacterTable.selectable := by
    intro n hn
    unfold shortTable? at hn
    split at hn
    · cases hn
      simp [CharacterTable.selectable, CharacterTable.regional]
    · cases hn
      simp [CharacterTable.selectable, CharacterTable.regional]
    · cases hn
      simp [CharacterTable.selectable, CharacterTable.regional]
    · cases hn
      simp [CharacterTable.selectable, CharacterTable.regional]
    · cases hn
      simp [CharacterTable.selectable, CharacterTable.regional]
    · obtain ⟨part, -, rfl⟩ := Option.map_eq_some_iff.mp hn
      exact List.mem_append_right _ (mem_regional_iso8859 part)
  unfold selectAfter at h
  split at h
  · cases h
  · split at h
    · split at h
      · split at h
        · cases h
          exact List.mem_append_right _ (mem_regional_iso8859 _)
        · cases h
      · cases h
    · split at h
      · rename_i hn
        cases h
        exact hshort _ hn
      · cases h

inductive SelectorFault
  | emptyField
  | malformed (error : DecodeError)
  deriving DecidableEq, Repr

def select : Octets → Except SelectorFault Selection
  | [] => .error .emptyField
  | first :: rest =>
    match selectAfter first rest with
    | .ok s => .ok s
    | .error e => .error (.malformed e)

/-- The text of a field; an empty field is an empty text. -/
def decodeField (default : CharacterTable) : Octets → Except DecodeError (List Char)
  | [] => .ok []
  | first :: rest =>
    match selectAfter first rest with
    | .error e => .error e
    | .ok .byDefault => .ok (default.decode (first :: rest))
    | .ok (.selected table skip) => .ok (table.decode ((first :: rest).drop skip))

inductive FieldFault
  | malformed (error : DecodeError)
  /-- The codec of the default encoding refuses it. -/
  | refused (fault : CodecFault)
  deriving DecidableEq, Repr

namespace Codec

/-- The text of a field where any codec may be the default. -/
def decodeField (default : Codec) : Octets → Except FieldFault (List CodePoint)
  | [] => .ok []
  | first :: rest =>
    match selectAfter first rest with
    | .error e => .error (.malformed e)
    | .ok .byDefault => (default.decode (first :: rest)).mapError .refused
    | .ok (.selected table skip) => .ok ((table.decode ((first :: rest).drop skip)).map .char)

def refusal? (default : Codec) (field : Octets) : Option CodecFault :=
  match default.decodeField field with
  | .error (.refused fault) => some fault
  | _ => none

theorem IsTotal.refusal?_eq_none {default : Codec} (h : default.IsTotal) (field : Octets) :
    default.refusal? field = none := by
  have hfield : ∀ fault, default.decodeField field ≠ .error (.refused fault) := by
    intro fault heq
    cases field with
    | nil => cases heq
    | cons first rest =>
      obtain ⟨s, hs⟩ := h (first :: rest)
      simp only [decodeField, hs] at heq
      cases hselect : selectAfter first rest with
      | error e =>
        rw [hselect] at heq
        cases heq
      | ok selection =>
        rw [hselect] at heq
        cases selection <;> cases heq
  unfold refusal?
  split
  · rename_i fault heq
    exact absurd heq (hfield fault)
  · rfl

/-- What a codec does not refuse is the text of its table. -/
theorem decodeField_table {default : Codec} {field : Octets}
    (h : default.refusal? field = none) :
    Text.decodeField default.table field =
      match default.decodeField field with
      | .ok s => .ok (s.map CodePoint.shown)
      | .error (.malformed e) => .error e
      | .error (.refused _) => .ok [] := by
  cases field with
  | nil => rfl
  | cons first rest =>
    simp only [Text.decodeField, decodeField]
    cases selectAfter first rest with
    | error e => rfl
    | ok selection =>
      cases selection with
      | byDefault =>
        simp only [table]
        cases default.decode (first :: rest) with
        | error fault => rfl
        | ok s => rfl
      | selected table skip => simp only [CodePoint.map_shown_char]

end Codec

end BroadcastGuide.Text
