import BroadcastGuide.Numeral.Literal
import BroadcastGuide.Text.Unicode

/-!
Names for channels: a table of identifiers by service, and the tuning list of a receiver.
-/

namespace BroadcastGuide.Channels

open Text (strip firstWord)

/-- Identifiers by service, in ascending order of the service. -/
abbrev Idents := List (Int × String)

namespace Idents

def insert (key : Int) (ident : String) : Idents → Idents
  | [] => [(key, ident)]
  | entry :: rest =>
    if key < entry.1 then (key, ident) :: entry :: rest
    else if key = entry.1 then (key, ident) :: rest
    else entry :: insert key ident rest

end Idents

/-- The entry of a line: a number and the rest of the line. Blank lines, comments and lines of
another form have none. -/
def identLine? (line : List Char) : Option (Int × String) :=
  match strip line with
  | [] => none
  | '#' :: _ => none
  | text =>
    let (key, ident) := firstWord text
    if ident.isEmpty then none
    else (Numeral.literal? key).map fun n => (n, String.ofList (strip ident))

/-- The table of a list of lines. A later line takes the place of an earlier one. -/
def parseIdents (lines : List (List Char)) : Idents :=
  (lines.filterMap identLine?).foldl (fun table entry => table.insert entry.1 entry.2) []

def serviceField : Nat := 8

def fields (line : List Char) : List (List Char) := line.splitOn ':'

def dropLineEnd (line : List Char) : List Char :=
  (line.reverse.dropWhile fun c => c = '\r' || c = '\n').reverse

def tuningLine? (line : List Char) : Option (Int × String) :=
  let parts := fields (dropLineEnd line)
  let name := parts.headD []
  match parts[serviceField]? with
  | none => none
  | some field =>
    if name.isEmpty then none
    else
      match Numeral.decimal? field with
      | none => none
      | some service => if service = 0 then none else some (service, String.ofList name)

def parseTuning (lines : List (List Char)) : List (Int × String) := lines.filterMap tuningLine?

/-- The lines of a text, each with its line end made a line feed. -/
def linesFrom (pending : List Char) : List Char → List (List Char)
  | [] => if pending.isEmpty then [] else [pending.reverse]
  | '\r' :: '\n' :: rest => ('\n' :: pending).reverse :: linesFrom [] rest
  | '\r' :: rest => ('\n' :: pending).reverse :: linesFrom [] rest
  | '\n' :: rest => ('\n' :: pending).reverse :: linesFrom [] rest
  | c :: rest => linesFrom (c :: pending) rest

def fileLines (bytes : Octets) : List (List Char) := linesFrom [] (Text.Utf8.decode bytes)

def standardIdent (service : Int) : String := toString service ++ ".dvb.guide"

/-- The identifier of a service as the table has it, even a blank one. -/
def listedIdent (table : Idents) (service : Int) : String :=
  (table.lookup service).getD (standardIdent service)

/-- The identifier of a service; a blank one does not count. -/
def ident (table : Idents) (service : Int) : String :=
  match table.lookup service with
  | some name => if name.isEmpty then standardIdent service else name
  | none => standardIdent service

end BroadcastGuide.Channels
