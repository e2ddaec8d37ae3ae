/-!
Dates of the Gregorian calendar and their day numbers, counted from 1970-01-01.
-/

namespace BroadcastGuide.Calendar

/-- A year, a month counted from one, and a day of the month. -/
structure Date where
  year : Int
  month : Int
  day : Int
  deriving DecidableEq, Repr

inductive DateFault
  | month
  | day
  deriving DecidableEq, Repr

def DateFault.message : DateFault → String
  | .month => "month must be in 1..12"
  | .day => "day is out of range for month"

def isLeapYear (year : Int) : Bool := year % 4 == 0 && (year % 100 != 0 || year % 400 == 0)

def daysInMonth (year month : Int) : Int :=
  if month = 2 then (if isLeapYear year then 29 else 28)
  else if month = 4 ∨ month = 6 ∨ month = 9 ∨ month = 11 then 30
  else 31

namespace Date

/-- Refuses a month that the year does not have before a day that the month does not have. -/
def check (d : Date) : Except DateFault Date :=
  if d.month < 1 ∨ 12 < d.month then .error .month
  else if d.day < 1 ∨ daysInMonth d.year d.month < d.day then .error .day
  else .ok d

/-- Days from 1970-01-01. Years are taken from March on, so that a leap day ends its year. -/
def toDays (d : Date) : Int :=
  let y := if d.month ≤ 2 then d.year - 1 else d.year
  let m := if d.month ≤ 2 then d.month + 9 else d.month - 3
  365 * y + y / 4 - y / 100 + y / 400 + (153 * m + 2) / 5 + d.day - 719469

def ofDays (n : Int) : Date :=
  let z := n + 719468
  let era := z / 146097
  let dayOfEra := z % 146097
  let yearOfEra := (dayOfEra - dayOfEra / 1460 + dayOfEra / 36524 - dayOfEra / 146096) / 365
  let dayOfYear := dayOfEra - (365 * yearOfEra + yearOfEra / 4 - yearOfEra / 100)
  let m := (5 * dayOfYear + 2) / 153
  let month := if m < 10 then m + 3 else m - 9
  { year := yearOfEra + era * 400 + (if month ≤ 2 then 1 else 0)
    month := month
    day := dayOfYear - (153 * m + 2) / 5 + 1 }

end Date

/-- The day of the week of a day number, Monday being zero. -/
def weekday (n : Int) : Int := (n + 3) % 7

example : (Date.mk 1970 1 1).toDays = 0 := by decide
example : Date.ofDays 11016 = ⟨2000, 2, 29⟩ := by decide
example : Date.ofDays (-1) = ⟨1969, 12, 31⟩ := by decide

end BroadcastGuide.Calendar
