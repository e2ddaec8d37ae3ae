import BroadcastGuide.Monitor.Fault
import BroadcastGuide.Numeral.Binary64
import BroadcastGuide.Numeral.Grouped

/-!
The drawn cells of the live view: bars, rate lines and counters, in the styles of a theme.
-/

namespace BroadcastGuide.Monitor

inductive Style
  | label
  | value | valueWarn | valueError
  | barGood | barWarn | barError
  | dim | accent
  deriving DecidableEq, Repr

namespace Style

def key : Style → String
  | label => "label"
  | value => "value"
  | valueWarn => "value_warn"
  | valueError => "value_error"
  | barGood => "bar_good"
  | barWarn => "bar_warn"
  | barError => "bar_error"
  | dim => "dim"
  | accent => "accent"

def named? (s : String) : Option Style :=
  [label, value, valueWarn, valueError, barGood, barWarn, barError, dim, accent].find? (·.key == s)

end Style

/-- A text without the characters that would ring a bell or move the cursor back or to another page;
line feeds and tabs stay. -/
def drawn (text : String) : String :=
  String.ofList (text.toList.filter fun c => !([0x07, 0x08, 0x0B, 0x0C, 0x0D].contains c.toNat))

/-- Pieces of text, each in its style, and the style of the whole. -/
structure Cell where
  pieces : List (List Char × Option Style)
  style : Option Style
  deriving DecidableEq, Repr

namespace Cell

def plain (c : Cell) : String := String.ofList (c.pieces.flatMap (·.1))

/-- Start, end and style of the pieces from a place on; empty pieces have no span. -/
def spansFrom (start : Nat) : List (List Char × Option Style) → List (Nat × Nat × Style)
  | [] => []
  | (text, style) :: rest =>
    let stop := start + text.length
    let tail := spansFrom stop rest
    match style with
    | some s => if text.isEmpty then tail else (start, stop, s) :: tail
    | none => tail

def spans (c : Cell) : List (Nat × Nat × Style) := spansFrom 0 c.pieces

def uniform (text : String) (style : Style) : Cell := ⟨[(text.toList, none)], some style⟩

end Cell

open Numeral (roundBinary64 toBinary64? truncate grouped)

def measured (q : Rat) : Except Fault Rat :=
  match toBinary64? q with
  | some r => .ok r
  | none => .error .tooLarge

def maxCount : Int := 1 <<< 63

def memoryCount : Int := 1 <<< 32

def repeated (count : Int) (c : Char) : Except Fault (List Char) :=
  if count < -maxCount ∨ maxCount ≤ count then .error .tooLarge
  else if memoryCount ≤ count then .error .noMemory
  else .ok (List.replicate count.toNat c)

/-- A value as a share of its greatest, from zero to one. -/
def share (value greatest : Rat) : Except Fault Rat :=
  if greatest ≤ 0 then .ok 0
  else
    (measured (value / greatest)).map fun ratio =>
      if ratio < 0 then 0 else if 1 < ratio then 1 else ratio

/-- Below one half a share is bad, below nine tenths it is worth a warning. -/
def shareStyle (ratio : Rat) : Style :=
  if ratio < 1 / 2 then .barError
  else if ratio < roundBinary64 (9 / 10) then .barWarn
  else .barGood

def filledWidth (value greatest : Rat) (width : Int) : Except Fault Int :=
  if greatest ≤ 0 then .ok 0
  else do
    let ratio ← share value greatest
    let whole ← measured width
    return truncate (roundBinary64 (ratio * whole))

def bar (value greatest : Rat) (width : Int) : Except Fault Cell := do
  let ratio ← share value greatest
  let filled ← filledWidth value greatest width
  let full ← repeated filled '█'
  let shaded ← repeated (width - filled) '░'
  return ⟨[(full, some (shareStyle ratio)), (shaded, some .dim)], none⟩

def blocks : List Char := [' ', '▁', '▂', '▃', '▄', '▅', '▆', '▇', '█']

/-- The block for a value, as high as its share of the top. -/
def block (value top : Int) : Except Fault Char := do
  let ratio ← measured ((value : Rat) / (top : Rat))
  let height ← measured (ratio * 8)
  return blocks.getD (max 0 (min 8 (truncate height))).toNat ' '

/-- The last values that a width has room for. A width of zero has room for all, and one below
zero leaves out the first. -/
def lastValues (values : List Int) (width : Int) : List Int :=
  if 0 < width then values.drop (values.length - width.toNat)
  else values.drop (-width).toNat

def blockRow (top : Int) : List Int → Except Fault (List (List Char × Option Style))
  | [] => .ok []
  | v :: rest => do
    let first ← block v top
    let others ← blockRow top rest
    return ([first], some .accent) :: others

/-- A line of blocks for a row of values, with dashes where there are none yet. -/
def sparkline (values : List Int) (width : Int) : Except Fault Cell :=
  if values.isEmpty then
    (repeated width '-').map fun dashes => ⟨[(dashes, none)], some .dim⟩
  else
    match lastValues values width with
    | [] => .error .noValues
    | first :: rest => do
      let greatest := rest.foldl max first
      let row ← blockRow (if greatest = 0 then 1 else greatest) (first :: rest)
      let missing := width - (rest.length + 1)
      let dashes ← if 0 < missing then repeated missing '-' else pure []
      return ⟨row ++ [(dashes, some .dim)], none⟩

def counter (value : Int) (bad : Style) : Cell :=
  .uniform (grouped value) (if value = 0 then .value else bad)

def counterNamed (value : Int) (bad : String) : Except Fault Cell :=
  match Style.named? bad with
  | some style => .ok (counter value style)
  | none => if value = 0 then .ok (counter value .value) else .error .unknownStyle

end BroadcastGuide.Monitor
