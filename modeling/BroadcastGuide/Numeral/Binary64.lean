/-!
Rounding of rationals: to the nearest number of fifty-three significant bits, and to a decimal
text with a fixed number of places. A tie goes to the even neighbour.
-/

namespace BroadcastGuide.Numeral

/-- The integer nearest to a quotient, the even one of two that are equally near. -/
def divNearestEven (num den : Nat) : Nat :=
  let q := num / den
  let twice := 2 * (num % den)
  if twice < den then q
  else if den < twice then q + 1
  else if q % 2 = 0 then q else q + 1

/-- The exponent of the leading bit of a positive quotient. -/
def leadingExponent (num den : Nat) : Int :=
  let e : Int := (num.log2 : Int) - den.log2
  let reaches := if 0 ≤ e then den <<< e.toNat ≤ num else den ≤ num <<< (-e).toNat
  if reaches then e else e - 1

/-- The binary64 value nearest to a rational, as if exponents had no bounds. -/
def roundBinary64 (q : Rat) : Rat :=
  if q = 0 then 0
  else
    let shift := 52 - leadingExponent q.num.natAbs q.den
    let magnitude : Rat :=
      if 0 ≤ shift then
        let scale : Nat := 1 <<< shift.toNat
        (divNearestEven (q.num.natAbs * scale) q.den : Rat) / (scale : Rat)
      else
        let scale : Nat := 1 <<< (-shift).toNat
        (divNearestEven q.num.natAbs (q.den * scale) : Rat) * (scale : Rat)
    if q.num < 0 then -magnitude else magnitude

/-- Whether binary64 has a number near a rational; from two to the power of 1024 on it has none. -/
def fitsBinary64 (q : Rat) : Bool :=
  let r := roundBinary64 q
  decide (r.num.natAbs < r.den <<< 1024)

def toBinary64? (q : Rat) : Option Rat := if fitsBinary64 q then some (roundBinary64 q) else none

def roundInteger (q : Rat) : Int :=
  let n : Int := divNearestEven q.num.natAbs q.den
  if q.num < 0 then -n else n

/-- The integer part of a rational, toward zero. -/
def truncate (q : Rat) : Int := Int.tdiv q.num q.den

/-- Decimal text with a fixed number of places, and a minus sign where `negative` says so. -/
def fixedPlaces (places : Nat) (negative : Bool) (q : Rat) : String :=
  let units := divNearestEven (q.num.natAbs * Nat.pow 10 places) q.den
  let digits := Nat.toDigits 10 units
  let digits := List.replicate (places + 1 - digits.length) '0' ++ digits
  let whole := digits.take (digits.length - places)
  let fraction := digits.drop (digits.length - places)
  let text := if places = 0 then whole else whole ++ '.' :: fraction
  String.ofList (if negative then '-' :: text else text)

end BroadcastGuide.Numeral
