import BroadcastGuide.Delivery
import BroadcastGuide.Section.Frame

/-!
Reads sections from a byte source. Filler bytes are skipped, a header with an impossible length
costs one byte, and more bytes are asked for only while the section at the head is incomplete.
-/

namespace BroadcastGuide

/-- Bytes between sections that cannot start one. -/
def isFiller (b : UInt8) : Bool := b == 0x00 || b == 0xFF

/-- Drops bytes until a plausible header is at the head or less than a header is left. -/
def dropUnframed : Octets → Octets
  | [] => []
  | b :: rest =>
    if isFiller b then dropUnframed rest
    else if 2 ≤ rest.length ∧ declaredLength (b :: rest) < 4 then dropUnframed rest
    else b :: rest

def countUnframed : Octets → Nat
  | [] => 0
  | b :: rest =>
    if isFiller b then countUnframed rest + 1
    else if 2 ≤ rest.length ∧ declaredLength (b :: rest) < 4 then countUnframed rest + 1
    else 0

theorem countUnframed_add_length (bytes : Octets) :
    countUnframed bytes + (dropUnframed bytes).length = bytes.length := by
  induction bytes with
  | nil => rfl
  | cons b rest ih =>
    unfold countUnframed dropUnframed
    split
    · simp only [List.length_cons]
      omega
    · split
      · simp only [List.length_cons]
        omega
      · exact Nat.zero_add _

theorem length_dropUnframed_le (bytes : Octets) :
    (dropUnframed bytes).length ≤ bytes.length := by
  have := countUnframed_add_length bytes
  omega

theorem four_le_dropUnframed {bytes : Octets} (h : 3 ≤ (dropUnframed bytes).length) :
    4 ≤ declaredLength (dropUnframed bytes) := by
  induction bytes with
  | nil => simp [dropUnframed] at h
  | cons b rest ih =>
    unfold dropUnframed at h ⊢
    split
    · rename_i hb
      simp only [hb, if_true] at h
      exact ih h
    · rename_i hb
      split
      · rename_i hr
        simp only [hb, Bool.false_eq_true, if_false, hr, and_self, if_true] at h
        exact ih h
      · rename_i hr
        simp only [hb, Bool.false_eq_true, if_false, hr, List.length_cons] at h
        simp only [not_and, Nat.not_lt] at hr
        exact hr (by omega)

/-- A section whose declared size is more than the buffer can hold. -/
structure SectionTooLarge where
  size : Nat
  capacity : Nat
  deriving DecidableEq, Repr

def SectionTooLarge.message (e : SectionTooLarge) : String :=
  s!"Section of {e.size} bytes does not fit reassembly buffer of {e.capacity} bytes"

/-- A bounded buffer, and how many bytes went into it and were dropped from it. -/
structure Reader where
  capacity : Nat
  buffer : Octets
  bytesRead : Nat
  bytesSkipped : Nat
  deriving DecidableEq, Repr

namespace Reader

def ofCapacity (capacity : Nat) : Reader := ⟨capacity, [], 0, 0⟩

inductive Head
  | incomplete
  | tooLarge (error : SectionTooLarge)
  | whole (found : RawSection)

/-- The buffer after dropping what starts no section. -/
def settle (r : Reader) : Reader :=
  { r with
    buffer := dropUnframed r.buffer
    bytesSkipped := r.bytesSkipped + countUnframed r.buffer }

def head (r : Reader) : Head :=
  if header : (dropUnframed r.buffer).length < 3 then .incomplete
  else
    let size := 3 + declaredLength (dropUnframed r.buffer)
    if r.capacity < size then .tooLarge ⟨size, r.capacity⟩
    else if whole : (dropUnframed r.buffer).length < size then .incomplete
    else .whole (.cut (dropUnframed r.buffer) (Nat.le_of_not_lt whole)
      (four_le_dropUnframed (Nat.le_of_not_lt header)))

def dropSection (r : Reader) (s : RawSection) : Reader :=
  { r with buffer := r.buffer.drop s.bytes.length }

def push (r : Reader) (bytes : Octets) : Reader :=
  { r with buffer := r.buffer ++ bytes, bytesRead := r.bytesRead + bytes.length }

inductive Ending
  | exhausted
  | tooLarge (error : SectionTooLarge)
  deriving DecidableEq, Repr

/-- A section, with the reader and the source as they are when it is handed out. -/
structure Sighting (σ : Type) where
  found : RawSection
  reader : Reader
  source : σ

structure Run (σ : Type) where
  sightings : List (Sighting σ)
  ending : Ending
  reader : Reader
  source : σ

theorem length_dropSection_lt (r : Reader) {s : RawSection} (h : r.head = .whole s) :
    (r.settle.dropSection s).buffer.length < r.buffer.length := by
  unfold head at h
  split at h
  · cases h
  · dsimp only at h
    split at h
    · cases h
    · split at h
      · cases h
      · cases h
        rename_i header _ _
        have h₁ := length_dropUnframed_le r.buffer
        have h₂ := four_le_dropUnframed (Nat.le_of_not_lt header)
        simp only [dropSection, settle, List.length_drop, RawSection.length_cut]
        omega

theorem length_settle_le (r : Reader) : r.settle.buffer.length ≤ r.buffer.length :=
  length_dropUnframed_le r.buffer

/-- Runs a reader until its source ends or a section is too large for the buffer. -/
def run {σ : Type} [ByteSource σ] (r : Reader) (source : σ) : Run σ :=
  match _h : r.head with
  | .whole s =>
    let next := r.settle.dropSection s
    let rest := run next source
    { rest with sightings := ⟨s, next, source⟩ :: rest.sightings }
  | .tooLarge e => ⟨[], .tooLarge e, r.settle, source⟩
  | .incomplete =>
    let answer := ByteSource.read source (r.capacity - r.settle.buffer.length)
    if answer.1.isEmpty then ⟨[], .exhausted, r.settle, answer.2⟩
    else run (r.settle.push answer.1) answer.2
termination_by (r.buffer.length + ByteSource.remaining source, ByteSource.remaining source)
decreasing_by
  · have := length_dropSection_lt r _h
    exact Prod.Lex.left _ _ (by omega)
  · rename_i hne
    have h₁ := ByteSource.remaining_read_le source (r.capacity - r.settle.buffer.length)
    have h₂ := length_settle_le r
    have h₃ : 0 < (ByteSource.read source (r.capacity - r.settle.buffer.length)).1.length := by
      simpa [List.length_pos_iff, answer] using hne
    simp only [push, List.length_append, Prod.lex_def]
    omega

end Reader

/-- The sections of a source, read through a buffer of a given capacity. -/
def readSections {σ : Type} [ByteSource σ] (source : σ) (capacity : Nat) : Reader.Run σ :=
  (Reader.ofCapacity capacity).run source

end BroadcastGuide
