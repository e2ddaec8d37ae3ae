import BroadcastGuide.Octets

/-!
Unicode text in bytes: UTF-8 and big-endian UTF-16. Each malformed piece becomes one replacement
character, and byte order marks are characters like any other.
-/

namespace BroadcastGuide.Text

def malformed : Char := '\uFFFD'

namespace Utf8

structure Begun where
  more : Nat
  low : Nat
  high : Nat
  value : Nat
  deriving DecidableEq, Repr

inductive Lead
  | whole (c : Char)
  | begins (state : Begun)
  | illegal

/-- The ranges of the second byte keep out overlong forms, surrogates and values past the end. -/
def lead (b : UInt8) : Lead :=
  let n := b.toNat
  if n < 0x80 then .whole (Char.ofNat n)
  else if n < 0xC2 then .illegal
  else if n < 0xE0 then .begins ⟨0, 0x80, 0xBF, n - 0xC0⟩
  else if n = 0xE0 then .begins ⟨1, 0xA0, 0xBF, 0⟩
  else if n = 0xED then .begins ⟨1, 0x80, 0x9F, 0xD⟩
  else if n < 0xF0 then .begins ⟨1, 0x80, 0xBF, n - 0xE0⟩
  else if n = 0xF0 then .begins ⟨2, 0x90, 0xBF, 0⟩
  else if n < 0xF4 then .begins ⟨2, 0x80, 0xBF, n - 0xF0⟩
  else if n = 0xF4 then .begins ⟨2, 0x80, 0x8F, 4⟩
  else .illegal

def startByte (b : UInt8) : List Char × Option Begun :=
  match lead b with
  | .whole c => ([c], none)
  | .begins state => ([], some state)
  | .illegal => ([malformed], none)

/-- Decodes one byte. A byte that does not continue the character begun starts the next one. -/
def step (state : Option Begun) (b : UInt8) : List Char × Option Begun :=
  match state with
  | none => startByte b
  | some s =>
    if s.low ≤ b.toNat ∧ b.toNat ≤ s.high then
      let value := s.value * 64 + (b.toNat - 0x80)
      match s.more with
      | 0 => ([Char.ofNat value], none)
      | more + 1 => ([], some ⟨more, 0x80, 0xBF, value⟩)
    else
      let (out, next) := startByte b
      (malformed :: out, next)

def decodeFrom (state : Option Begun) : Octets → List Char
  | [] => if state.isSome then [malformed] else []
  | b :: rest => (step state b).1 ++ decodeFrom (step state b).2 rest

def decode (bytes : Octets) : List Char := decodeFrom none bytes

end Utf8

namespace Utf16

def isHigh (unit : Nat) : Bool := 0xD800 ≤ unit && unit < 0xDC00
def isLow (unit : Nat) : Bool := 0xDC00 ≤ unit && unit < 0xE000

/-- The character of a pair of surrogates. -/
def combine (high low : Nat) : Char :=
  Char.ofNat (0x10000 + (high - 0xD800) * 0x400 + (low - 0xDC00))

/-- Decodes a unit at the start of a character; a high surrogate begins one. -/
def startUnit (unit : Nat) : List Char × Option Nat :=
  if isHigh unit then ([], some unit)
  else if isLow unit then ([malformed], none)
  else ([Char.ofNat unit], none)

/-- Decodes one unit. A unit that does not complete the pair begun starts the next character. -/
def step (begun : Option Nat) (unit : Nat) : List Char × Option Nat :=
  match begun with
  | none => startUnit unit
  | some high =>
    if isLow unit then ([combine high unit], none)
    else
      let (out, next) := startUnit unit
      (malformed :: out, next)

/-- Less than a unit at the end is malformed, together with a high surrogate before it. -/
def decodeFrom (begun : Option Nat) : Octets → List Char
  | [] => if begun.isSome then [malformed] else []
  | [_] => [malformed]
  | h :: l :: rest =>
    (step begun (Octets.word h l)).1 ++ decodeFrom (step begun (Octets.word h l)).2 rest

def decode (bytes : Octets) : List Char := decodeFrom none bytes

end Utf16

end BroadcastGuide.Text
