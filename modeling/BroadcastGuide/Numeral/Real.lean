import BroadcastGuide.Numeral.Literal

/-!
Literals of real numbers: digits with an optional point and an exponent of ten, or a name for
infinity or for no number at all.
-/

namespace BroadcastGuide.Numeral

inductive RealLiteral
  /-- The digits read as a whole number, times a power of ten. -/
  | finite (isNegative : Bool) (digits : List Nat) (exponent : Int)
  | infinite (isNegative : Bool)
  | notANumber
  deriving DecidableEq, Repr

def isAsciiDigit (c : Char) : Bool := 0x30 ≤ c.toNat && c.toNat ≤ 0x39

def dropUnderscores (afterDigit : Bool) : List Char → Option (List Char)
  | [] => some []
  | '_' :: c :: rest =>
    if afterDigit && isAsciiDigit c then (dropUnderscores true rest).map (c :: ·) else none
  | '_' :: [] => none
  | c :: rest => (dropUnderscores (isAsciiDigit c) rest).map (c :: ·)

def exponent? : List Char → Option Int
  | [] => some 0
  | c :: rest =>
    if c = 'e' ∨ c = 'E' then withSign (fun s => (digits? 10 s).map (ofDigits 10)) rest else none

def finite? (isNegative : Bool) (s : List Char) : Option RealLiteral :=
  let whole := s.takeWhile isAsciiDigit
  let rest := s.dropWhile isAsciiDigit
  let (fraction, rest) := match rest with
    | '.' :: more => (more.takeWhile isAsciiDigit, more.dropWhile isAsciiDigit)
    | rest => ([], rest)
  let digits := (whole ++ fraction).map fun c => c.toNat - 0x30
  if digits.isEmpty then none
  else (exponent? rest).map fun e => .finite isNegative digits (e - fraction.length)

def unsigned? (isNegative : Bool) (s : List Char) : Option RealLiteral :=
  let name := String.ofList (s.map Char.toLower)
  if name = "inf" ∨ name = "infinity" then some (.infinite isNegative)
  else if name = "nan" then some .notANumber
  else finite? isNegative s

/-- Reads a literal; white space may surround it, and digits of any script count. -/
def real? (s : List Char) : Option RealLiteral :=
  match dropUnderscores false ((Text.trimWhile isMargin s).map asciiDigit) with
  | some ('-' :: rest) => unsigned? true rest
  | some ('+' :: rest) => unsigned? false rest
  | some rest => unsigned? false rest
  | none => none

/-- Whether a positive magnitude is nearer to zero than to any other binary64 number. -/
def underflows (digits : List Nat) (exponent : Int) : Bool :=
  let places := (-exponent).toNat
  if digits.length + 400 < places then true
  else decide (ofDigits 10 digits <<< 1075 ≤ Nat.pow 10 places)

def RealLiteral.isNonPositive : RealLiteral → Bool
  | .finite isNegative digits exponent =>
    isNegative || ofDigits 10 digits == 0 || (exponent < 0 && underflows digits exponent)
  | .infinite isNegative => isNegative
  | .notANumber => false

/-- Whether a literal, times a power of ten, is a bound or more. -/
def RealLiteral.reaches (bound : Nat) (power : Nat) : RealLiteral → Bool
  | .finite isNegative digits exponent =>
    let magnitude := ofDigits 10 digits
    let places := exponent + power
    if isNegative || magnitude == 0 then bound == 0
    else if places < -(digits.length : Int) then bound == 0
    else if places < 0 then bound * Nat.pow 10 (-places).toNat ≤ magnitude
    else if bound.log2 < places then true
    else bound ≤ magnitude * Nat.pow 10 places.toNat
  | .infinite isNegative => !isNegative
  | .notANumber => false

end BroadcastGuide.Numeral
