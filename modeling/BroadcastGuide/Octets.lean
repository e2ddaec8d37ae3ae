/-!
Byte strings and the big-endian integers that they hold.
-/

namespace BroadcastGuide

abbrev Octets := List UInt8

namespace Octets

/-- The value of two bytes, the high one first. -/
def word (high low : UInt8) : Nat := high.toNat * 256 + low.toNat

/-- The sixteen low bits of a number, high byte first. -/
def ofWord (n : Nat) : Octets := [UInt8.ofNat (n / 256), UInt8.ofNat n]

/-- The value of a byte string read as one big-endian number. -/
def value (bytes : Octets) : Nat := bytes.foldl (fun n b => n * 256 + b.toNat) 0

/-- The thirty-two low bits of a number, high byte first. -/
def ofDoubleWord (n : Nat) : Octets := ofWord (n / 65536) ++ ofWord n

@[simp] theorem length_ofWord (n : Nat) : (ofWord n).length = 2 := rfl

@[simp] theorem length_ofDoubleWord (n : Nat) : (ofDoubleWord n).length = 4 := rfl

theorem word_lt (high low : UInt8) : word high low < 65536 := by
  have h := high.toNat_lt
  have l := low.toNat_lt
  unfold word
  omega

/-- Whether there are fewer than so many bytes. No more of them are looked at. -/
def isShorter : Octets → Nat → Bool
  | _, 0 => false
  | [], _ + 1 => true
  | _ :: rest, n + 1 => isShorter rest n

theorem isShorter_iff {bytes : Octets} {n : Nat} :
    isShorter bytes n = true ↔ bytes.length < n := by
  induction n generalizing bytes with
  | zero => simp [isShorter]
  | succ n ih =>
    cases bytes with
    | nil => simp [isShorter]
    | cons b rest => simp [isShorter, ih]

instance decidableLengthLt (bytes : Octets) (n : Nat) : Decidable (bytes.length < n) :=
  decidable_of_iff (isShorter bytes n = true) isShorter_iff

instance decidableLeLength (n : Nat) (bytes : Octets) : Decidable (n ≤ bytes.length) :=
  decidable_of_iff (¬ bytes.length < n) Nat.not_lt

end Octets

end BroadcastGuide
