import BroadcastGuide.Calendar.Date
import BroadcastGuide.Numeral.Hexadecimal

/-!
Instants as whole seconds from 1970-01-01T00:00:00Z, and their texts.
-/

namespace BroadcastGuide.Calendar

/-- Whole seconds from 1970-01-01T00:00:00Z. -/
abbrev Instant := Int

namespace Instant

def secondsPerDay : Int := 86400

/-- The first second of year 1. -/
def first : Instant := -62135596800

/-- The last second of year 9999. -/
def last : Instant := 253402300799

def inCalendar (t : Instant) : Bool := first ≤ t && t ≤ last

def midnight (d : Date) : Instant := d.toDays * secondsPerDay

def day (t : Instant) : Int := t / secondsPerDay
def date (t : Instant) : Date := Date.ofDays t.day
def secondOfDay (t : Instant) : Int := t % secondsPerDay
def hour (t : Instant) : Int := t.secondOfDay / 3600
def minute (t : Instant) : Int := t.secondOfDay % 3600 / 60
def second (t : Instant) : Int := t.secondOfDay % 60

/-- Text of the form `2024-03-01T12:00:00+00:00`. -/
def iso (t : Instant) : String :=
  Numeral.padded 4 t.date.year ++ "-" ++ Numeral.padded 2 t.date.month ++ "-" ++
    Numeral.padded 2 t.date.day ++ "T" ++ Numeral.padded 2 t.hour ++ ":" ++
    Numeral.padded 2 t.minute ++ ":" ++ Numeral.padded 2 t.second ++ "+00:00"

def weekdayName (t : Instant) : String :=
  match weekday t.day with
  | 0 => "Mon"
  | 1 => "Tue"
  | 2 => "Wed"
  | 3 => "Thu"
  | 4 => "Fri"
  | 5 => "Sat"
  | _ => "Sun"

end Instant

/-- An instant before year 1 or after year 9999. -/
structure OutOfCalendar where
  deriving DecidableEq, Repr

def Instant.shift (t : Instant) (seconds : Int) : Except OutOfCalendar Instant :=
  if Instant.inCalendar (t + seconds) then .ok (t + seconds) else .error {}

structure ZonedTime where
  /-- The microseconds from 1970-01-01T00:00:00 to what the clocks show. -/
  shown : Int
  /-- The microseconds that the clocks are ahead of universal time. -/
  ahead : Int
  deriving DecidableEq, Repr

def ZonedTime.ofInstant (t : Instant) (zone : Int) : Except OutOfCalendar ZonedTime :=
  (t.shift zone).map fun there => ⟨1000000 * there, 1000000 * zone⟩

/-- The last whole second at a time. -/
def ZonedTime.toInstant (w : ZonedTime) : Except OutOfCalendar Instant :=
  Instant.shift ((w.shown - w.ahead) / 1000000) 0

end BroadcastGuide.Calendar
