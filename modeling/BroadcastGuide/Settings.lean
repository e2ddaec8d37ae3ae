import BroadcastGuide.Calendar.Instant
import BroadcastGuide.Text.Codec
import BroadcastGuide.Text.Quoted
import BroadcastGuide.Versions

/-!
The options of a run. They are judged before anything is read, and settings are options that passed.
-/

namespace BroadcastGuide

structure Options where
  /-- Hours added to every start time. -/
  timeOffset : Int
  /-- Hand out an event again when a newer version comes. -/
  emitUpdates : Bool
  /-- Hand out events that lie outside the windows. -/
  includeInvalidDates : Bool
  /-- The encoding of text that selects none. -/
  defaultEncoding : Option String
  versionPolicy : String
  /-- How many seconds ago an event may end. -/
  pastWindow : Int
  /-- In how many seconds an event may end. -/
  futureWindow : Int
  /-- What the masked bits of a table number must be. -/
  tableFilter : Int
  tableMask : Int
  bufferCapacity : Int
  deriving DecidableEq, Repr

inductive OptionError
  | unknownTableFilter (name : String)
  | timeOffset (hours : Int)
  | unknownVersionPolicy (name : String)
  | tableFilterRange
  | capacityTooSmall (capacity : Int)
  | encoding (name : String) (fault : Text.NameFault)
  /-- A table filter is named and given at once. -/
  | tableFilterTwice
  /-- A window of a thousand million days or more. -/
  | windowRange
  deriving DecidableEq, Repr

def OptionError.message : OptionError → String
  | .unknownTableFilter name => s!"Unknown table filter: {Text.quoted name}"
  | .timeOffset hours => s!"Time offset must be -12..12 hours, got {hours}"
  | .unknownVersionPolicy name => s!"Unknown version policy: {Text.quoted name}"
  | .tableFilterRange => "Table filter and mask must be single bytes"
  | .capacityTooSmall capacity => s!"Buffer capacity too small: {capacity}"
  | .encoding name .unknown => s!"Unknown encoding: {name}"
  | .encoding name fault => fault.message name
  | .tableFilterTwice => "the table filter is given twice"
  | .windowRange => "the window is too long"

structure Settings where
  timeOffset : Int
  emitUpdates : Bool
  includeInvalidDates : Bool
  /-- The name of the encoding of text that selects none, and its codec. -/
  defaultEncoding : Option (String × Text.Codec)
  versionPolicy : VersionPolicy
  pastWindow : Int
  futureWindow : Int
  tableFilter : Nat
  tableMask : Nat
  bufferCapacity : Nat

namespace Options

def standard : Options :=
  { timeOffset := 0, emitUpdates := false, includeInvalidDates := false
    defaultEncoding := none, versionPolicy := "direct"
    pastWindow := 86400, futureWindow := 14 * 86400
    tableFilter := 0, tableMask := 0, bufferCapacity := 4096 }

def tableFilters : List (String × Int × Int) :=
  [("all", 0x00, 0x00), ("now-next", 0x4E, 0xFE), ("now-next-actual", 0x4E, 0xFF),
    ("now-next-other", 0x4F, 0xFF)]

def withTableFilter (o : Options) (name : String) : Except OptionError Options :=
  match tableFilters.lookup name with
  | some (filter, mask) => .ok { o with tableFilter := filter, tableMask := mask }
  | none => .error (.unknownTableFilter name)

/-- A span of time has fewer than a thousand million days. -/
def isSpan (seconds : Int) : Bool :=
  -86399999913600 ≤ seconds && seconds < 86400000000000

def isOctet (n : Int) : Bool := 0 ≤ n && n ≤ 255

def encoding (o : Options) (registry : Text.Registry) :
    Except OptionError (Option (String × Text.Codec)) :=
  match o.defaultEncoding with
  | none => .ok none
  | some name =>
    match registry.lookup name with
    | .ok codec => .ok (some (name, codec))
    | .error fault => .error (.encoding name fault)

def checkWindows (o : Options) : Except OptionError Unit :=
  if isSpan o.pastWindow && isSpan o.futureWindow then .ok () else .error .windowRange

/-- Judges the options one by one; the first fault counts. Any name of a codec is a good one. -/
def check (o : Options) (registry : Text.Registry) : Except OptionError Settings := do
  o.checkWindows
  if o.timeOffset < -12 ∨ 12 < o.timeOffset then throw (.timeOffset o.timeOffset)
  let versionPolicy ← match VersionPolicy.named? o.versionPolicy with
    | some policy => pure policy
    | none => throw (.unknownVersionPolicy o.versionPolicy)
  if !(isOctet o.tableFilter && isOctet o.tableMask) then throw .tableFilterRange
  if o.bufferCapacity < 16 then throw (.capacityTooSmall o.bufferCapacity)
  let defaultEncoding ← o.encoding registry
  return {
    timeOffset := o.timeOffset
    emitUpdates := o.emitUpdates
    includeInvalidDates := o.includeInvalidDates
    defaultEncoding := defaultEncoding
    versionPolicy := versionPolicy
    pastWindow := o.pastWindow
    futureWindow := o.futureWindow
    tableFilter := o.tableFilter.toNat
    tableMask := o.tableMask.toNat
    bufferCapacity := o.bufferCapacity.toNat }

/-- Judges options whose table filter is named; they should bring no filter of their own. -/
def checkNamed (o : Options) (registry : Text.Registry) (name : String) (hasFilter : Bool) :
    Except OptionError Settings := do
  o.checkWindows
  let filtered ← o.withTableFilter name
  if hasFilter then throw .tableFilterTwice
  filtered.check registry

end Options

namespace Settings

open Calendar (Instant OutOfCalendar)

def codec (s : Settings) : Text.Codec :=
  match s.defaultEncoding with
  | some (_, codec) => codec
  | none => Text.CharacterTable.latin.codec

def table (s : Settings) : Text.CharacterTable := s.codec.table

def acceptsTable (s : Settings) (id : Int) : Bool :=
  (id % 256).toNat &&& s.tableMask == s.tableFilter &&& s.tableMask

/-- Whether an event that ends at a given instant lies within the windows around now, which the
calendar must have. The end of the second window is looked for only if the first lets the event
pass. -/
def inWindow (s : Settings) (now stop : Instant) : Except OutOfCalendar Bool :=
  match now.shift 0 with
  | .error e => .error e
  | .ok now =>
    match now.shift (-s.pastWindow) with
    | .error e => .error e
    | .ok earliest =>
      if stop < earliest then .ok false
      else
        match now.shift s.futureWindow with
        | .error e => .error e
        | .ok latest => .ok (decide (stop ≤ latest))

end Settings

end BroadcastGuide
