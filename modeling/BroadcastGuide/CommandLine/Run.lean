import BroadcastGuide.Channels
import BroadcastGuide.CommandLine.Arguments
import BroadcastGuide.CommandLine.Files
import BroadcastGuide.Guide
import BroadcastGuide.Transport.SectionSource

/-!
What the command does with its arguments, its files and the time of day.
-/

namespace BroadcastGuide.CommandLine

open Calendar (Instant)

/-- What a command finds around it. -/
structure Host where
  /-- The codecs that can be named. -/
  registry : Text.Registry
  /-- The zone of local time. -/
  zone : Xmltv.Zone
  now : Instant
  files : Files
  standardInput : Octets

structure Outcome where
  exitCode : Nat
  /-- What goes to the standard output; the texts of help and misuse are not part of it. -/
  standardOutput : Option String
  /-- Status and errors, unless a live view takes their place. -/
  standardError : Option String
  /-- The file written, and its text. -/
  written : Option (String × String)
  deriving DecidableEq, Repr

def programName : String := "dvbepg"
def programVersion : String := "0.1.0"

inductive Breakdown
  | outOfCalendar
  /-- The codec of the default encoding refuses a text. -/
  | refused (fault : Text.CodecFault)
  /-- An option is used that was given without its value. -/
  | noValue
  /-- A path holds a null character. -/
  | nullInPath
  /-- The output has no room. -/
  | noRoom
  /-- The time to wait for a device is no number. -/
  | waitNotANumber
  /-- The time to wait for a device is longer than the system can count. -/
  | waitTooLong
  deriving DecidableEq, Repr

def Breakdown.message : Breakdown → String
  | .outOfCalendar => "date value out of range"
  | .refused fault => fault.message
  | .noValue => "an option has no value"
  | .nullInPath => "embedded null byte"
  | .noRoom => "no space left on device"
  | .waitNotANumber => "Invalid value NaN (not a number)"
  | .waitTooLong => "timestamp too large"

namespace Stop

def outcome : Stop → Outcome
  | .misuse => ⟨2, none, none, none⟩
  | .help => ⟨0, none, none, none⟩
  | .version => ⟨0, some (programName ++ " " ++ programVersion ++ "\n"), none, none⟩

end Stop

def refuse (a : Arguments) (message : String) : Outcome :=
  ⟨1, some "", if a.dashboard then none else some ("Error: " ++ message ++ "\n"), none⟩

namespace Arguments

def tableFilter (a : Arguments) : String :=
  match a.tables with
  | some .nowNext => "now-next"
  | some .nowNextActual => "now-next-actual"
  | some .nowNextOther => "now-next-other"
  | _ => "all"

def options (a : Arguments) : Options :=
  { Options.standard with
    timeOffset := a.offset
    emitUpdates := a.updates
    includeInvalidDates := a.invalidDates
    defaultEncoding := a.encoding
    versionPolicy := a.versionPolicy }

def judge (a : Arguments) (registry : Text.Registry) : Except OptionError Settings :=
  a.options.checkNamed registry a.tableFilter false

def outputPath (a : Arguments) : Option String := a.output.filter (!·.isEmpty)

end Arguments

/-- The identifiers of channels; a file that cannot be read has none. -/
def readIdents (files : Files) (path : Option String) : Channels.Idents :=
  match (path.filter (!·.isEmpty)).map files.read with
  | some (.ok bytes) => Channels.parseIdents (Channels.fileLines bytes)
  | _ => []

/-- The channels of a tuning list; a file that cannot be read has none. -/
def readTuning (files : Files) (path : String) : List (Int × String) :=
  match files.read path with
  | .ok bytes => Channels.parseTuning (Channels.fileLines bytes)
  | .error _ => []

/-- The bytes of the input. A dash stands for the standard input. -/
def readInput (host : Host) (path : String) : Except SystemFault Octets :=
  if path = "-" then .ok host.standardInput else host.files.read path

def Files.emptied (files : Files) (path : Option String) : Files :=
  { files with
    read := fun p =>
      if path.any (files.same p ·) then .ok [] else files.read p }

/-- What a run shows, with the source forgotten. -/
def grab (settings : Settings) (now : Instant) (transport : Bool) (bytes : Octets) :
    List GrabEvent × Option GrabFault :=
  let stream : Delivery := ⟨bytes, []⟩
  if transport then
    let g := Grabber.run settings now
      (Transport.SectionSource.ofStream stream Transport.eventPid)
    (g.events, g.fault)
  else
    let g := Grabber.run settings now stream
    (g.events, g.fault)

def statusText (events : List GrabEvent) : String :=
  String.join (events.map fun
    | .programme _ => ""
    | .progress counters _ => "\x0d " ++ counters.statusLine)

def grabInto (a : Arguments) (settings : Settings) (idents : Channels.Idents) (host : Host)
    (bytes : Octets) : Except Breakdown Outcome :=
  let (events, ending) := grab settings host.now a.transport bytes
  let programmes := events.filterMap fun | .programme p => some p | .progress _ _ => none
  let channels := readTuning host.files a.channelsConf
  let (guide, fault) :=
    Guide.ofProgrammes (Channels.ident idents) host.zone channels programmes ending
  let status := if a.silent then "" else statusText events
  let lastLine := if a.silent then "" else "\n"
  let ended (exitCode : Nat) (faultText : String) : Outcome :=
    { exitCode := exitCode
      standardOutput := some (if a.outputPath.isSome then "" else guide.text)
      standardError := if a.dashboard then none else some (status ++ faultText ++ lastLine)
      written := a.outputPath.map (·, guide.text) }
  match fault with
  | none => .ok (ended 0 "")
  | some (.run (.tooLarge e)) => .ok (ended 1 ("\nError: " ++ e.message ++ "\n"))
  | some (.run (.decoder (.refused e))) => .error (.refused e)
  | some (.run (.decoder .outOfCalendar)) | some .outOfCalendar => .error .outOfCalendar

/-- No path may hold a null character. -/
def holdsNull (path : String) : Bool := path.toList.contains (Char.ofNat 0)

def maxNanoseconds : Nat := 1 <<< 63

def checkWait : Numeral.RealLiteral → Except Breakdown Unit
  | .notANumber => .error .waitNotANumber
  | t => if t.reaches maxNanoseconds 9 then .error .waitTooLong else .ok ()

/-- Opens the files and runs. The input is opened before the output is emptied, and read after. -/
def runOpened (a : Arguments) (settings : Settings) (host : Host) : Except Breakdown Outcome :=
  let notOpened (fault : SystemFault) : Outcome :=
    refuse a ("Unable to get event data from multiplex: " ++ fault.message a.input)
  if a.chanidents.any holdsNull then .error .nullInPath
  else if a.lacks .input then .error .noValue
  else if holdsNull a.input then .error .nullInPath
  else
    match readInput host a.input with
    | .error fault => .ok (notOpened fault)
    | .ok _ =>
      if a.outputPath.any holdsNull then .error .nullInPath
      else
        match a.outputPath.map fun path => (path, host.files.create path) with
        | some (path, .error fault) =>
          .ok (refuse a ("Can\x27t write file " ++ path ++ ": " ++ fault.message path))
        | _ =>
          let idents := readIdents host.files a.chanidents
          let host := { host with files := host.files.emptied a.outputPath }
          if !a.outputPath.all host.files.hasRoom then .error .noRoom
          else if a.lacks .channelsConf then .error .noValue
          else if holdsNull a.channelsConf then .error .nullInPath
          else
            match readInput host a.input with
            | .error fault => .ok (notOpened fault)
            | .ok bytes => do
              if a.input ≠ "-" ∧ host.files.isDevice a.input then checkWait a.timeout
              grabInto a settings idents host bytes

/-- Runs the command with its arguments. Options without a value break it off where they are
used, but the version policy is judged like any other. -/
def runWith (a : Arguments) (host : Host) : Except Breakdown Outcome :=
  if a.lacks .offset then .error .noValue
  else
    match ({ a with encoding := none } : Arguments).judge host.registry with
    | .error e => .ok (refuse a e.message)
    | .ok _ =>
      if a.lacks .versionPolicy then .ok (refuse a "Unknown version policy: []")
      else if a.lacks .encoding then .error .noValue
      else
        match a.judge host.registry with
        | .error e => .ok (refuse a e.message)
        | .ok settings =>
          if a.lacks .timeout then .error .noValue
          else if a.timeout.isNonPositive then .ok (refuse a "Invalid timeout value")
          else runOpened a settings host

def run (words : List String) (host : Host) : Except Breakdown Outcome :=
  match Arguments.ofWords words with
  | .error stop => .ok stop.outcome
  | .ok a => runWith a host

end BroadcastGuide.CommandLine
