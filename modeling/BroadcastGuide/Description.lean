import BroadcastGuide.Descriptor.Basic
import BroadcastGuide.Programme
import BroadcastGuide.Text.Field

/-!
Long descriptions, put together from numbered fragments. A description exists once every number up
to the last has been seen; a number seen twice, or another last number, starts a new run.
-/

namespace BroadcastGuide

open Text (CharacterTable Tallied)

namespace ExtendedEvent

def renderItem (table : CharacterTable) (item : EventItem) : Tallied String := do
  let label ← Text.normalize table item.label
  let value ← Text.normalize table item.value
  return label ++ ": " ++ value ++ "; "

def renderItems (table : CharacterTable) : List EventItem → Tallied String
  | [] => return ""
  | item :: rest => do
    let first ← renderItem table item
    let others ← renderItems table rest
    return first ++ others

/-- A fragment as text: its items, then its free text. -/
def render (table : CharacterTable) (d : ExtendedEvent) : Tallied String := do
  let items ← renderItems table d.items
  if d.text.isEmpty then return items
  else
    let text ← Text.normalize table d.text
    return items ++ text

def fields (d : ExtendedEvent) : List Octets :=
  d.items.flatMap (fun item => [item.label, item.value]) ++
    if d.text.isEmpty then [] else [d.text]

end ExtendedEvent

/-- A run of fragments not yet complete: its last number, the language of its first fragment, and
the texts seen, by number. -/
structure DescriptionRun where
  last : Nat
  language : Option String
  parts : List (Nat × String)
  deriving DecidableEq, Repr

structure Assembler where
  run : Option DescriptionRun
  completed : List LangText
  deriving DecidableEq, Repr

namespace Assembler

def empty : Assembler := ⟨none, []⟩

def isOpen (a : Assembler) : Bool := a.run.isSome

/-- Fragments that carry nothing or are numbered beyond their last number do not count. -/
def accepts (d : ExtendedEvent) : Bool := d.isNonEmpty && d.number ≤ d.last

def runFor (a : Assembler) (d : ExtendedEvent) : DescriptionRun :=
  match a.run with
  | none => ⟨d.last, none, []⟩
  | some r =>
    if (r.parts.lookup d.number).isSome ∨ d.last ≠ r.last then ⟨d.last, none, []⟩ else r

def extend (r : DescriptionRun) (d : ExtendedEvent) (text : String) : DescriptionRun :=
  { r with
    language := if d.number = 0 then some d.language else r.language
    parts := (d.number, text) :: r.parts }

/-- The texts of a run in ascending order of their numbers. -/
def joined (r : DescriptionRun) : String :=
  String.join ((List.range (r.last + 1)).map fun n => (r.parts.lookup n).getD "")

def addText (a : Assembler) (d : ExtendedEvent) (text : String) : Assembler × Option LangText :=
  let r := extend (a.runFor d) d text
  if r.parts.length < r.last + 1 then ({ a with run := some r }, none)
  else
    let whole : LangText := ⟨r.language.getD "", joined r⟩
    (⟨none, a.completed ++ [whole]⟩, some whole)

/-- Offers a fragment. The description is handed out with the fragment that completes it. -/
def add (table : CharacterTable) (a : Assembler) (d : ExtendedEvent) :
    Tallied (Assembler × Option LangText) :=
  if accepts d then do
    let text ← d.render table
    return a.addText d text
  else return (a, none)

def addAll (table : CharacterTable) (a : Assembler) : List ExtendedEvent → Tallied Assembler
  | [] => return a
  | d :: rest => do
    let (next, _) ← a.add table d
    addAll table next rest

end Assembler

end BroadcastGuide
