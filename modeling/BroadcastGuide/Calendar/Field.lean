import BroadcastGuide.Calendar.Bcd
import BroadcastGuide.Calendar.Instant
import BroadcastGuide.Calendar.JulianDay

/-!
The time fields of an event. A start time is sixteen bits of day number and six digits of clock, a
duration six digits of clock.
-/

namespace BroadcastGuide.Calendar

inductive StartFault
  | malformed (error : DecodeError)
  | outOfCalendar
  deriving DecidableEq, Repr

namespace StartTime

def midnight (mjd : Nat) : Except DecodeError Instant :=
  match (JulianDay.toDate mjd).check with
  | .ok date => .ok (Instant.midnight date)
  | .error fault => .error (.notADate mjd fault)

/-- The midnight of the day and the clock after it. The clock is read before the day is judged. -/
def parts : Octets → Except DecodeError (Instant × Bcd.Clock)
  | d₁ :: d₀ :: h :: m :: s :: _ => do
    let clock ← Bcd.clock [h, m, s]
    let start ← midnight (Octets.word d₁ d₀)
    return (start, clock)
  | _ => .error .startTooShort

def decode (field : Octets) (hourOffset : Int) : Except StartFault Instant :=
  match parts field with
  | .error e => .error (.malformed e)
  | .ok (start, clock) =>
    match start.shift (clock.total + 3600 * hourOffset) with
    | .ok t => .ok t
    | .error _ => .error .outOfCalendar

/-- The field of an instant; of the day number the sixteen low bits are kept. -/
def encode (t : Instant) : Except EncodeError Octets := do
  let hours ← Bcd.encode t.hour
  let minutes ← Bcd.encode t.minute
  let seconds ← Bcd.encode t.second
  return Octets.ofWord ((t.day + JulianDay.epoch) % 65536).toNat ++ [hours, minutes, seconds]

def encodeZoned (w : ZonedTime) : Except OutOfCalendar (Except EncodeError Octets) :=
  w.toInstant.map encode

end StartTime

namespace Duration

def decode (field : Octets) : Except DecodeError Nat := (Bcd.clock field).map Bcd.Clock.total

/-- The field of a number of seconds from zero to below one hundred hours. -/
def encode (seconds : Int) : Except EncodeError Octets := do
  let h ← Bcd.encode (seconds / 3600)
  let m ← Bcd.encode (seconds % 3600 / 60)
  let s ← Bcd.encode (seconds % 60)
  return [h, m, s]

end Duration

end BroadcastGuide.Calendar
