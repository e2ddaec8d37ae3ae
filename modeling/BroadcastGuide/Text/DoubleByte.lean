import BroadcastGuide.Text.Charts
import BroadcastGuide.Text.Unicode

/-!
The double-byte tables. A byte below 80 is itself; any other opens a pair, and a pair outside the
table costs its first byte only.
-/

namespace BroadcastGuide.Text.DoubleByte

/-- The character at a place of a chart. All characters of a chart lie below the replacement
character, which stands where nothing is assigned. -/
def charAt? (chart : List String) (row place : Nat) : Option Char :=
  (chart.getD row "").toList[place]?.filter (· < malformed)

def pairAt? (chart : List String) (b next : UInt8) : Option Char :=
  if 0xA1 ≤ b.toNat ∧ 0xA1 ≤ next.toNat then
    charAt? chart (b.toNat - 0xA1) (next.toNat - 0xA1)
  else none

def korean? : UInt8 → UInt8 → Option Char := pairAt? Charts.korean

def simplifiedChinese? : UInt8 → UInt8 → Option Char := pairAt? Charts.simplifiedChinese

/-- The character of a first byte from A1 on and a second one from either half of its row. -/
def traditionalChinese? (b next : UInt8) : Option Char :=
  if b.toNat < 0xA1 ∨ next.toNat < 0x40 then none
  else if next.toNat < 0x7F then
    charAt? Charts.traditionalChinese (2 * (b.toNat - 0xA1)) (next.toNat - 0x40)
  else if next.toNat < 0xA1 then none
  else charAt? Charts.traditionalChinese (2 * (b.toNat - 0xA1) + 1) (next.toNat - 0xA1)

def decode (pair? : UInt8 → UInt8 → Option Char) : Octets → List Char
  | [] => []
  | [b] => if b.toNat < 0x80 then [Char.ofNat b.toNat] else [malformed]
  | b :: next :: rest =>
    if b.toNat < 0x80 then Char.ofNat b.toNat :: decode pair? (next :: rest)
    else
      match pair? b next with
      | some c => c :: decode pair? rest
      | none => malformed :: decode pair? (next :: rest)

/-! ### Syllables spelt by their letters -/

/-- Places of the initial consonants among the letters from A4A1 on. -/
def initials : List (Option Nat) :=
  [some 0, some 1, none, some 2, none, none, some 3, some 4, some 5, none, none, none, none, none,
    none, none, some 6, some 7, some 8, none, some 9, some 10, some 11, some 12, some 13, some 14,
    some 15, some 16, some 17, some 18]

/-- Places of the final consonants among the letters from A4A1 on. -/
def finals : List (Option Nat) :=
  [some 1, some 2, some 3, some 4, some 5, some 6, some 7, none, some 8, some 9, some 10, some 11,
    some 12, some 13, some 14, some 15, some 16, some 17, none, some 18, some 19, some 20, some 21,
    some 22, none, some 23, some 24, some 25, some 26, some 27]

def initial? (b : UInt8) : Option Nat :=
  if b.toNat < 0xA1 then none else (initials.getD (b.toNat - 0xA1) none)

def vowel? (b : UInt8) : Option Nat :=
  if 0xBF ≤ b.toNat ∧ b.toNat ≤ 0xD3 then some (b.toNat - 0xBF) else none

/-- The place of a final consonant; the filler D4 is none. -/
def final? (b : UInt8) : Option Nat :=
  if b.toNat = 0xD4 then some 0
  else if b.toNat < 0xA1 then none
  else finals.getD (b.toNat - 0xA1) none

def syllable? (i v f : UInt8) : Option Char := do
  let initial ← initial? i
  let vowel ← vowel? v
  let final ← final? f
  return Char.ofNat (0xAC00 + 588 * initial + 28 * vowel + final)

/-- Decodes Korean text, in which the pair A4D4 opens a syllable of three more letter pairs. -/
def decodeKorean : Octets → List Char
  | [] => []
  | [b] => if b.toNat < 0x80 then [Char.ofNat b.toNat] else [malformed]
  | b :: next :: rest =>
    if b.toNat < 0x80 then Char.ofNat b.toNat :: decodeKorean (next :: rest)
    else if b.toNat = 0xA4 ∧ next.toNat = 0xD4 then
      match rest with
      | m₁ :: i :: m₂ :: v :: m₃ :: f :: after =>
        let letters := m₁.toNat = 0xA4 ∧ m₂.toNat = 0xA4 ∧ m₃.toNat = 0xA4
        match if letters then syllable? i v f else none with
        | some c => c :: decodeKorean after
        | none => malformed :: decodeKorean (next :: m₁ :: i :: m₂ :: v :: m₃ :: f :: after)
      | _ => [malformed]
    else
      match korean? b next with
      | some c => c :: decodeKorean rest
      | none => malformed :: decodeKorean (next :: rest)
termination_by bytes => bytes.length

end BroadcastGuide.Text.DoubleByte
