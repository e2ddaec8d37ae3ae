import BroadcastGuide.Octets
import BroadcastGuide.Text.Quoted

/-!
Paths through a tree of directories. A path is followed name by name from the root or from the
working directory, and only its last name may stand for something that is no directory.
-/

namespace BroadcastGuide.CommandLine

inductive SystemFault
  | missing
  | notADirectory
  | isDirectory
  | nameTooLong
  deriving DecidableEq, Repr

def SystemFault.message (fault : SystemFault) (path : String) : String :=
  let (number, text) : Nat × String := match fault with
    | .missing => (2, "No such file or directory")
    | .notADirectory => (20, "Not a directory")
    | .isDirectory => (21, "Is a directory")
    | .nameTooLong => (36, "File name too long")
  s!"[Errno {number}] {text}: {Text.quoted path}"

abbrev Place := List String

namespace Place

def root : Place := []

/-- The root is its own parent. -/
def parent (p : Place) : Place := p.tail

/-- Where a command starts. The directory has no name, so only paths from within lead to it. -/
def working : Place := ["", "tmp"]

def standard : List Place :=
  let atRoot := ["bin", "boot", "dev", "etc", "home", "lib", "media", "mnt", "opt", "proc", "root",
    "run", "sbin", "srv", "sys", "tmp", "usr", "var"]
  let inUsr := ["bin", "include", "lib", "local", "sbin", "share", "src"]
  let inVar := ["cache", "lib", "local", "lock", "log", "mail", "opt", "run", "spool", "tmp"]
  let inLocal := ["bin", "etc", "include", "lib", "sbin", "share", "src"]
  atRoot.map ([·]) ++ inUsr.map ([·, "usr"]) ++ inVar.map ([·, "var"]) ++
    inLocal.map ([·, "local", "usr"]) ++ [["fd", "dev"], ["pts", "dev"], ["shm", "dev"]]

end Place

inductive Node
  | directory
  | file (bytes : Octets)
  /-- A device without bytes, which takes what is written to it if it has room. -/
  | device (hasRoom : Bool)
  deriving DecidableEq, Repr

abbrev Tree := Place → Option Node

structure Target where
  directory : Place
  /-- A name in the directory, unless the path ends at the directory itself. -/
  name : Option String
  /-- A slash at the end asks for a directory. -/
  asDirectory : Bool
  deriving DecidableEq, Repr

def Target.place (t : Target) : Place :=
  match t.name with
  | some name => name :: t.directory
  | none => t.directory

namespace Tree

/-- A standard system whose working directory holds nothing but the given files. -/
def ofEntries (entries : List (String × Octets)) : Tree
  | [] => some .directory
  | name :: directory =>
    let place := name :: directory
    if directory = Place.working then (entries.lookup name).map .file
    else if place = Place.working ∨ Place.standard.contains place then some .directory
    else if place = ["null", "dev"] ∨ place = ["zero", "dev"] then some (.device true)
    else if place = ["full", "dev"] then some (.device false)
    else none

variable (t : Tree)

def maxName : Nat := 255

def maxPath : Nat := 4095

def child (here : Place) (name : String) : Except SystemFault (Option Node) :=
  if maxName < name.utf8ByteSize then .error .nameTooLong else .ok (t (name :: here))

def step (here : Place) (name : String) : Except SystemFault Place :=
  if name = "." then .ok here
  else if name = ".." then .ok here.parent
  else
    match t.child here name with
    | .error e => .error e
    | .ok none => .error .missing
    | .ok (some .directory) => .ok (name :: here)
    | .ok (some _) => .error .notADirectory

def follow (here : Place) : List String → Except SystemFault Place
  | [] => .ok here
  | name :: rest =>
    match t.step here name with
    | .error e => .error e
    | .ok next => follow next rest

/-- The names of a path; slashes in a row part them like one. -/
def names (path : List Char) : List String :=
  ((path.splitOn '/').filter (!·.isEmpty)).map String.ofList

def resolve (path : String) : Except SystemFault Target :=
  let s := path.toList
  let start := if s.head? = some '/' then Place.root else Place.working
  let asDirectory := s.getLast? = some '/'
  if s.isEmpty then .error .missing
  else if maxPath < path.utf8ByteSize then .error .nameTooLong
  else
    match (names s).getLast? with
    | none => .ok ⟨start, none, asDirectory⟩
    | some last =>
      if last = "." ∨ last = ".." then
        (t.follow start (names s)).map fun place => ⟨place, none, asDirectory⟩
      else (t.follow start (names s).dropLast).map fun place => ⟨place, some last, asDirectory⟩

def find (target : Target) : Except SystemFault (Option Node) :=
  match target.name with
  | none => .ok (some .directory)
  | some name => t.child target.directory name

def openToRead (target : Target) : Except SystemFault Octets :=
  match t.find target with
  | .error e => .error e
  | .ok none => .error .missing
  | .ok (some .directory) => .error .isDirectory
  | .ok (some (.file bytes)) => if target.asDirectory then .error .notADirectory else .ok bytes
  | .ok (some (.device _)) => if target.asDirectory then .error .notADirectory else .ok []

/-- Opens the end of a path for writing. What is not there is created, but never as a directory. -/
def openToWrite (target : Target) : Except SystemFault Unit :=
  if target.asDirectory then .error .isDirectory
  else
    match t.find target with
    | .error e => .error e
    | .ok (some .directory) => .error .isDirectory
    | .ok _ => .ok ()

end Tree

end BroadcastGuide.CommandLine
