/-!
Hexadecimal text of an integer: a sign, then digits filled up with zeros.
-/

namespace BroadcastGuide.Numeral

/-- The digits of a magnitude in base sixteen, in lower case. -/
def hexDigits (n : Nat) : List Char := Nat.toDigits 16 n

/-- A signed numeral of at least `width` characters; zeros go between sign and digits. -/
def signed (width : Nat) (n : Int) (digits : List Char) : String :=
  let sign := if n < 0 then ['-'] else []
  let fill := List.replicate (width - sign.length - digits.length) '0'
  String.ofList (sign ++ fill ++ digits)

/-- Lower-case hexadecimal text of at least `width` characters. -/
def hexLower (width : Nat) (n : Int) : String := signed width n (hexDigits n.natAbs)

def hexUpper (width : Nat) (n : Int) : String :=
  signed width n ((hexDigits n.natAbs).map Char.toUpper)

/-- Decimal text of at least `width` characters. -/
def padded (width : Nat) (n : Int) : String := signed width n (Nat.toDigits 10 n.natAbs)

end BroadcastGuide.Numeral
