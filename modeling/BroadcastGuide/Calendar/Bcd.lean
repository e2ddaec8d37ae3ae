import BroadcastGuide.DecodeError
import BroadcastGuide.EncodeError
import BroadcastGuide.Octets

/-!
Decimal digits in the nibbles of bytes, as clock times and durations are sent.
-/

namespace BroadcastGuide.Calendar.Bcd

/-- The two digits of a byte. A wider number counts by its two low nibbles. -/
def decode (v : Int) : Except DecodeError Nat :=
  let high := (v / 16 % 16).toNat
  let low := (v % 16).toNat
  if 9 < high ∨ 9 < low then .error (.bcdDigit v) else .ok (10 * high + low)

def encode (n : Int) : Except EncodeError UInt8 :=
  if 0 ≤ n ∧ n ≤ 99 then .ok (UInt8.ofNat (n.toNat / 10 * 16 + n.toNat % 10))
  else .error (.bcdRange n)

structure Clock where
  hours : Nat
  minutes : Nat
  seconds : Nat
  deriving DecidableEq, Repr

def Clock.total (c : Clock) : Nat := 3600 * c.hours + 60 * c.minutes + c.seconds

def clock : Octets → Except DecodeError Clock
  | h :: m :: s :: _ => do
    let hours ← decode h.toNat
    let minutes ← decode m.toNat
    let seconds ← decode s.toNat
    return ⟨hours, minutes, seconds⟩
  | _ => .error .timeTooShort

theorem decode_encode {n : Int} {b : UInt8} (h : encode n = .ok b) :
    decode b.toNat = .ok n.toNat := by
  unfold encode at h
  split at h
  · cases h
    have h1 : n.toNat / 10 * 16 + n.toNat % 10 < 256 := by omega
    simp only [decode, UInt8.toNat_ofNat', Nat.reducePow, Nat.mod_eq_of_lt h1]
    have h2 : ((n.toNat / 10 * 16 + n.toNat % 10 : Nat) : Int) / 16 % 16 =
        (n.toNat / 10 : Nat) := by
      omega
    have h3 : ((n.toNat / 10 * 16 + n.toNat % 10 : Nat) : Int) % 16 = (n.toNat % 10 : Nat) := by
      omega
    rw [h2, h3]
    simp only [Int.toNat_natCast]
    rw [if_neg (by omega)]
    congr 1
    omega
  · cases h

end BroadcastGuide.Calendar.Bcd
