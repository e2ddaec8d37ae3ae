import BroadcastGuide.Checksum
import BroadcastGuide.DecodeError
import BroadcastGuide.Section.Table

/-!
The frame of a section: a table number, a length of twelve bits, and as many bytes as the length
declares, of which the last four are a checksum.
-/

namespace BroadcastGuide

/-- The length that the second and third byte declare for what follows them. -/
def declaredLength : Octets → Nat
  | _ :: high :: low :: _ => high.toNat % 16 * 256 + low.toNat
  | _ => 0

structure RawSection where
  bytes : Octets
  length_bytes : bytes.length = 3 + declaredLength bytes
  four_le : 4 ≤ declaredLength bytes
  deriving DecidableEq

theorem declaredLength_lt (bytes : Octets) : declaredLength bytes < 4096 := by
  unfold declaredLength
  split
  · rename_i low _
    have := low.toNat_lt
    omega
  · omega

theorem declaredLength_take {bytes : Octets} {n : Nat} (h : 3 ≤ n) :
    declaredLength (bytes.take n) = declaredLength bytes := by
  obtain ⟨m, rfl⟩ : ∃ m, n = m + 3 := ⟨n - 3, by omega⟩
  match bytes with
  | [] => simp
  | [_] => simp [declaredLength]
  | [_, _] => simp [declaredLength]
  | _ :: _ :: _ :: _ => simp [declaredLength]

namespace RawSection

def cut (bytes : Octets) (whole : 3 + declaredLength bytes ≤ bytes.length)
    (four_le : 4 ≤ declaredLength bytes) : RawSection where
  bytes := bytes.take (3 + declaredLength bytes)
  length_bytes := by
    rw [declaredLength_take (by omega), List.length_take]
    omega
  four_le := by rwa [declaredLength_take (by omega)]

def ofBytes (bytes : Octets) : Except DecodeError RawSection :=
  if bytes.length < 3 then .error .sectionHeaderTooShort
  else if whole : bytes.length < 3 + declaredLength bytes then
    .error (.sectionTruncated (3 + declaredLength bytes) bytes.length)
  else if room : declaredLength bytes < 4 then .error (.noRoomForChecksum (declaredLength bytes))
  else .ok (cut bytes (Nat.le_of_not_lt whole) (Nat.le_of_not_lt room))

variable (s : RawSection)

def byte (i : Nat) (h : i < 7) : UInt8 :=
  s.bytes.get ⟨i, by have := s.length_bytes; have := s.four_le; omega⟩

def tableId : UInt8 := s.byte 0 (by decide)
def length : Nat := declaredLength s.bytes
def totalLength : Nat := 3 + s.length
def payload : Octets := s.bytes.drop 3

def checksum : Nat := Octets.value (s.bytes.drop (s.bytes.length - 4))

def hasSyntax : Bool := 0x80 ≤ (s.byte 1 (by decide)).toNat
def isIntact : Bool := Checksum.check s.bytes

def summary : String :=
  "RawSection(" ++ Table.describe s.tableId.toNat ++ ", length=" ++ toString s.length ++ ")"

theorem length_cut (bytes : Octets) (whole : 3 + declaredLength bytes ≤ bytes.length)
    (four_le : 4 ≤ declaredLength bytes) :
    (cut bytes whole four_le).bytes.length = 3 + declaredLength bytes := by
  simp only [cut, List.length_take]
  omega

end RawSection

end BroadcastGuide
