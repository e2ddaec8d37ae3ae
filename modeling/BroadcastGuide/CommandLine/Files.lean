import BroadcastGuide.CommandLine.Path

/-!
The files that a command sees.
-/

namespace BroadcastGuide.CommandLine

structure Files where
  read : String → Except SystemFault Octets
  /-- Whether a file can be opened for writing; it is created or emptied. -/
  create : String → Except SystemFault Unit
  /-- Whether two paths lead to one file. -/
  same : String → String → Bool
  /-- Whether a path leads to a device, which may keep its reader waiting. -/
  isDevice : String → Bool
  /-- Whether there is room for what is written to a path. -/
  hasRoom : String → Bool

namespace Files

def placeOf (t : Tree) (path : String) : Option Place := (t.resolve path).toOption.map Target.place

/-- A directory that holds nothing but files. -/
def ofDirectory (entries : List (String × Octets)) : Files :=
  let t := Tree.ofEntries entries
  let node (path : String) : Option Node := (placeOf t path).bind t
  { read := fun path => t.resolve path >>= t.openToRead
    create := fun path => t.resolve path >>= t.openToWrite
    same := fun a b => placeOf t a == placeOf t b
    isDevice := fun path => match node path with
      | some (.device _) => true
      | _ => false
    hasRoom := fun path => node path != some (.device false) }

def localName? (entries : List (String × Octets)) (path : String) : Option String :=
  match placeOf (.ofEntries entries) path with
  | some (name :: directory) => if directory = Place.working then some name else none
  | _ => none

end Files

end BroadcastGuide.CommandLine
