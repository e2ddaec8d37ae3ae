import BroadcastGuide.Calendar.Date
import BroadcastGuide.Numeral.Binary64

/-!
Modified Julian dates: days from 1858-11-17. The date of a day number is found by three quotients,
each cut toward zero; from 1900-03-01 (day 15079) on they give the Gregorian date.
-/

namespace BroadcastGuide.Calendar.JulianDay

/-- The day number of 1970-01-01. -/
def epoch : Int := 40587

/-- January and February count as months fourteen and fifteen of the year before. -/
def fold (year month day : Int) : Date :=
  let k := if month = 14 ∨ month = 15 then 1 else 0
  { year := 1900 + year + k, month := month - 1 - 12 * k, day := day }

/-- The three quotients in whole numbers. -/
def exactDate (mjd : Int) : Date :=
  let year := Int.tdiv (100 * mjd - 1507820) 36525
  let daysOfYears := Int.tdiv (1461 * year) 4
  let month := Int.tdiv (10000 * (mjd - daysOfYears) - 149561000) 306001
  let day := mjd - 14956 - daysOfYears - Int.tdiv (306001 * month) 10000
  fold year month day

open Numeral (roundBinary64 fitsBinary64 truncate)

/-- The first quotient, each operation rounded to binary64. -/
def roundedYear (mjd : Int) : Int :=
  let r := roundBinary64
  truncate (r (r (r mjd - r (150782 / 10)) / r (36525 / 100)))

def roundedDate (mjd : Int) : Date :=
  let r := roundBinary64
  let year := roundedYear mjd
  let daysOfYears := truncate (r (r year * r (36525 / 100)))
  let offset := r (r (r mjd - r (149561 / 10)) - r daysOfYears)
  let month := truncate (r (offset / r (306001 / 10000)))
  let day := mjd - 14956 - daysOfYears - truncate (r (r month * r (306001 / 10000)))
  fold year month day

/-- The date of a day number. Up to forty bits the rounding of the quotients does not show. -/
def toDate (mjd : Int) : Date :=
  if mjd.natAbs.log2 < 40 then exactDate mjd else roundedDate mjd

def isInRange (mjd : Int) : Bool :=
  fitsBinary64 mjd && fitsBinary64 (roundBinary64 (roundedYear mjd) * roundBinary64 (36525 / 100))

example : toDate 58849 = ⟨2020, 1, 1⟩ := by decide
example : (toDate 65535).toDays = 65535 - epoch := by decide

end BroadcastGuide.Calendar.JulianDay
