import BroadcastGuide.CommandLine.Run
import Std.Time.Zoned

/-!
The command itself: looks up the files that its arguments name and the time of day, runs, and
writes what the run leaves behind.
-/

namespace BroadcastGuide.CommandLine

def faultOf : IO.Error → SystemFault
  | .inappropriateType _ code _ => if code = 20 then .notADirectory else .isDirectory
  | .invalidArgument _ code _ => if code = 36 then .nameTooLong else .missing
  | _ => .missing

def lookUp (path : String) : IO (String × Except SystemFault Octets) := do
  try
    let bytes ← IO.FS.readBinFile path
    return (path, .ok bytes.toList)
  catch e => return (path, .error (faultOf e))

def readAll (stream : IO.FS.Stream) : IO Octets := do
  let mut bytes := ByteArray.empty
  repeat
    let chunk ← stream.read 65536
    if chunk.isEmpty then break
    bytes := bytes ++ chunk
  return bytes.toList

def filesOf (found : List (String × Except SystemFault Octets)) : Files where
  read path := (found.lookup path).getD (.error .missing)
  create _ := .ok ()
  same a b := a == b
  isDevice _ := false
  hasRoom _ := true

/-- The local zone of the system, or else universal time. -/
def localZone : IO Xmltv.Zone := do
  try
    let rules ← Std.Time.Database.defaultGetLocalZoneRules
    return ⟨fun t => (rules.timezoneAt (.ofSecondsSinceUnixEpoch ⟨t⟩)).offset.second.val⟩
  catch _ => return .universal

def deliver (outcome : Outcome) : IO UInt32 := do
  IO.print (outcome.standardOutput.getD "")
  IO.eprint (outcome.standardError.getD "")
  match outcome.written with
  | none => return UInt32.ofNat outcome.exitCode
  | some (path, text) =>
    try
      IO.FS.writeFile path text
      return UInt32.ofNat outcome.exitCode
    catch e =>
      IO.eprintln ("Error: Can\x27t write file " ++ path ++ ": " ++ (faultOf e).message path)
      return 1

def execute (words : List String) : IO UInt32 := do
  match Arguments.ofWords words with
  | .error stop => deliver stop.outcome
  | .ok a =>
    let found ← ([a.input, a.channelsConf] ++ a.chanidents.toList).mapM lookUp
    let input ← if a.input = "-" then readAll (← IO.getStdin) else pure []
    let now ← Std.Time.Timestamp.now
    let host : Host :=
      { registry := .known
        zone := ← localZone
        now := now.toSecondsSinceUnixEpoch.val
        files := filesOf found
        standardInput := input }
    match runWith a host with
    | .ok outcome => deliver outcome
    | .error breakdown =>
      IO.eprintln ("Error: " ++ breakdown.message)
      return 1

end BroadcastGuide.CommandLine

def main (args : List String) : IO UInt32 := BroadcastGuide.CommandLine.execute args
