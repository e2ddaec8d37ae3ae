import BroadcastGuide.Text.Markup
import BroadcastGuide.Text.Selector

/-!
Text fields made fit for markup: decoded, freed of control characters and escaped. How many fields
held forbidden characters or could not be decoded is tallied beside the texts.
-/

namespace BroadcastGuide.Text

structure Tally where
  warnings : Nat
  errors : Nat
  deriving DecidableEq, Repr

namespace Tally

instance : Zero Tally := ⟨⟨0, 0⟩⟩
instance : Add Tally := ⟨fun a b => ⟨a.warnings + b.warnings, a.errors + b.errors⟩⟩

@[simp] theorem warnings_zero : (0 : Tally).warnings = 0 := rfl
@[simp] theorem errors_zero : (0 : Tally).errors = 0 := rfl
@[simp] theorem warnings_add (a b : Tally) : (a + b).warnings = a.warnings + b.warnings := rfl
@[simp] theorem errors_add (a b : Tally) : (a + b).errors = a.errors + b.errors := rfl

theorem ext_iff {a b : Tally} : a = b ↔ a.warnings = b.warnings ∧ a.errors = b.errors := by
  cases a
  cases b
  simp

end Tally

structure Tallied (α : Type) where
  value : α
  tally : Tally

namespace Tallied

instance : Monad Tallied where
  pure a := ⟨a, 0⟩
  bind x f := ⟨(f x.value).value, x.tally + (f x.value).tally⟩

@[simp] theorem value_pure {α : Type} (a : α) : (pure a : Tallied α).value = a := rfl
@[simp] theorem tally_pure {α : Type} (a : α) : (pure a : Tallied α).tally = 0 := rfl

@[simp] theorem value_bind {α β : Type} (x : Tallied α) (f : α → Tallied β) :
    (x >>= f).value = (f x.value).value := rfl

@[simp] theorem tally_bind {α β : Type} (x : Tallied α) (f : α → Tallied β) :
    (x >>= f).tally = x.tally + (f x.value).tally := rfl

end Tallied

inductive Fate
  | keep
  | lineBreak
  | vanish
  | forbidden
  deriving DecidableEq, Repr

/-- Control codes of the second set count alike in the private use area, where Unicode text has
them. -/
def fate (c : Char) : Fate :=
  let n := if 0xE080 ≤ c.toNat ∧ c.toNat ≤ 0xE09F then c.toNat - 0xE000 else c.toNat
  if n = 0x8A then .lineBreak
  else if 0x80 ≤ n ∧ n ≤ 0x9F then .vanish
  else if n ≤ 0x08 ∨ (0x0B ≤ n ∧ n ≤ 0x1F) ∨ n = 0x7F then .forbidden
  else .keep

def cleanChar (c : Char) : List Char :=
  match fate c with
  | .keep => [c]
  | .lineBreak => ['\n']
  | .vanish => []
  | .forbidden => []

/-- Applies control codes and drops what markup cannot carry. -/
def clean (s : List Char) : List Char := s.flatMap cleanChar

/-- A text with a forbidden character earns a warning. -/
def hasForbidden (s : List Char) : Bool := s.any (fate · == .forbidden)

def cleanTallied (s : List Char) : Tallied (List Char) :=
  ⟨clean s, ⟨if hasForbidden s then 1 else 0, 0⟩⟩

/-- The text of a field as markup carries it. A field that cannot be decoded is empty. -/
def normalize (default : CharacterTable) (field : Octets) : Tallied String :=
  match decodeField default field with
  | .error _ => ⟨"", ⟨0, 1⟩⟩
  | .ok s => do
    let s ← cleanTallied s
    return String.ofList (escapeChars s)

/-- What fields in turn tally, up to the first that the codec of the default refuses, and why it
does. -/
def Codec.tallyFields (default : Codec) : List Octets → Tally × Option CodecFault
  | [] => (0, none)
  | field :: rest =>
    match default.refusal? field with
    | some fault => (0, some fault)
    | none =>
      let (tally, fault) := default.tallyFields rest
      ((normalize default.table field).tally + tally, fault)

end BroadcastGuide.Text
