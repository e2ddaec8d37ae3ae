import BroadcastGuide.Text.Blank
import BroadcastGuide.Text.DecimalDigit

/-!
Integer literals. A literal is a sign and digits of any script with single underscores between
them. The base is ten, or it is told by one of the marks `0x`, `0o` and `0b`; without a mark only
zero may begin with a zero.
-/

namespace BroadcastGuide.Numeral

def maxDecimalDigits : Nat := 4300

/-- White space that may surround a literal; the information separators may not. -/
def isMargin (c : Char) : Bool := Text.isBlank c && !(0x1C ≤ c.toNat && c.toNat ≤ 0x1F)

def asciiDigit (c : Char) : Char :=
  match Text.decimalDigit? c with
  | some d => Char.ofNat (0x30 + d)
  | none => c

/-- The value of an ASCII digit or letter in a base of up to sixteen. -/
def digit? (base : Nat) (c : Char) : Option Nat :=
  let n := c.toNat
  let d :=
    if 0x30 ≤ n && n ≤ 0x39 then n - 0x30
    else if 0x61 ≤ n && n ≤ 0x66 then n - 0x57
    else if 0x41 ≤ n && n ≤ 0x46 then n - 0x37
    else base
  if d < base then some d else none

/-- One or more digits, with at most one underscore between two of them. -/
def digits? (base : Nat) : List Char → Option (List Nat)
  | [] => none
  | c :: rest =>
    (digit? base c).bind fun d =>
      match rest with
      | [] => some [d]
      | '_' :: more => (digits? base more).map (d :: ·)
      | next :: more => (digits? base (next :: more)).map (d :: ·)

def ofDigits (base : Nat) (ds : List Nat) : Nat := ds.foldl (fun n d => n * base + d) 0

/-- A magnitude in base ten, leading zeros allowed. -/
def decimalMagnitude? (s : List Char) : Option Nat :=
  (digits? 10 s).bind fun ds =>
    if ds.length ≤ maxDecimalDigits then some (ofDigits 10 ds) else none

/-- The digits after a mark for the base, which one underscore may precede. -/
def markedMagnitude? (base : Nat) : List Char → Option Nat
  | '_' :: rest => (digits? base rest).map (ofDigits base)
  | rest => (digits? base rest).map (ofDigits base)

/-- A magnitude that tells its base by a mark. -/
def magnitude? : List Char → Option Nat
  | '0' :: 'x' :: rest => markedMagnitude? 16 rest
  | '0' :: 'X' :: rest => markedMagnitude? 16 rest
  | '0' :: 'o' :: rest => markedMagnitude? 8 rest
  | '0' :: 'O' :: rest => markedMagnitude? 8 rest
  | '0' :: 'b' :: rest => markedMagnitude? 2 rest
  | '0' :: 'B' :: rest => markedMagnitude? 2 rest
  | '0' :: rest => (decimalMagnitude? ('0' :: rest)).filter (· == 0)
  | s => decimalMagnitude? s

def withSign (magnitude : List Char → Option Nat) : List Char → Option Int
  | '-' :: rest => (magnitude rest).map fun n => -(n : Int)
  | '+' :: rest => (magnitude rest).map Int.ofNat
  | s => (magnitude s).map Int.ofNat

def literal? (s : List Char) : Option Int :=
  withSign magnitude? ((Text.trimWhile isMargin s).map asciiDigit)

def decimal? (s : List Char) : Option Int :=
  withSign decimalMagnitude? ((Text.trimWhile isMargin s).map asciiDigit)

end BroadcastGuide.Numeral
