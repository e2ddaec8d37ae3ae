import BroadcastGuide.Counters
import BroadcastGuide.Monitor.Cell
import BroadcastGuide.Programme
import BroadcastGuide.Text.Markup

/-!
The live view of a run over time. The clock counts milliseconds, and spans of time are measured in
seconds as binary64 numbers. Drawing is held back to a few times a second.
-/

namespace BroadcastGuide.Monitor

open Numeral (roundBinary64 fitsBinary64 roundInteger truncate fixedPlaces padded grouped)

/-- Milliseconds of a steady clock. -/
abbrev Tick := Int

def seconds (t : Tick) : Except Fault Rat := measured ((t : Rat) / 1000)

def elapsed (earlier later : Tick) : Except Fault Rat := do
  let stop ← seconds later
  let start ← seconds earlier
  measured (stop - start)

structure ProgrammeRow where
  channel : String
  start : String
  title : String
  deriving DecidableEq, Repr

structure LogLine where
  time : Tick
  level : String
  message : String
  deriving DecidableEq, Repr

structure Session where
  counters : Counters
  /-- Drawings a second, at most. -/
  refreshRate : Rat
  now : Tick
  isDrawing : Bool
  started : Tick
  lastRefresh : Tick
  /-- The newest programmes, the latest first. -/
  recent : List ProgrammeRow
  /-- The newest messages, the latest last. -/
  messages : List LogLine
  /-- Sections a second, the latest sample last. -/
  rates : List Int
  /-- When the last sample was taken, and how many sections there were. -/
  rateMark : Tick × Int
  deriving DecidableEq

def lastEntries {α : Type} (n : Nat) (entries : List α) : List α :=
  entries.drop (entries.length - n)

structure Panels where
  header : String
  counters : List (List String)
  throughput : List (List String)
  programmes : List (List String)
  log : String
  deriving DecidableEq, Repr

namespace Session

/-! ### What is drawn -/

section Drawn

variable (s : Session)

def header : String :=
  "  dvbepg - EIT programme guide grabber  " ++ grouped s.counters.programmes ++ " programmes"

def counterRows : List (List String) :=
  let c := s.counters
  [["Sections:", grouped c.packets], ["Programmes:", grouped c.programmes],
    ["Updates:", grouped c.updates], ["Repeats:", grouped c.repeats],
    ["Filtered:", grouped c.filtered],
    ["Invalid dates:", (counter c.invalidDates .valueWarn).plain],
    ["No title:", (counter c.missingTitles .valueWarn).plain],
    ["CRC errors:", (counter c.crcErrors .valueError).plain],
    ["Decode errors:", (counter c.decodeErrors .valueError).plain],
    ["Unknown desc:", (counter c.unknownDescriptors .valueWarn).plain],
    ["Text warnings:", (counter c.textWarnings .valueWarn).plain]]

/-- A number to some places; one that binary64 cannot hold counts as infinite. -/
def placesText (places : Nat) (isNegative : Bool) (q : Rat) : String :=
  if fitsBinary64 q then fixedPlaces places isNegative q
  else if isNegative then "-inf" else "inf"

def oneDecimal (q : Rat) : String := placesText 1 (decide (q < 0)) q

/-- Whole minutes and the seconds left over; each operation is rounded to binary64. -/
def minutesAndSeconds (span : Rat) : Int × Rat :=
  let left := span - 60 * (truncate (span / 60) : Rat)
  let quotient := roundBinary64 (roundBinary64 (span - left) / 60)
  let isBelow := decide (left < 0)
  let quotient := if isBelow then roundBinary64 (quotient - 1) else quotient
  let left := if isBelow then roundBinary64 (left + 60) else left
  let whole := quotient.floor
  (if 1 / 2 < quotient - (whole : Rat) then whole + 1 else whole, left)

/-- A span in minutes and seconds; below one minute in seconds only. -/
def spanText (span : Rat) : String :=
  let (minutes, left) := minutesAndSeconds span
  let text := oneDecimal left ++ "s"
  if 0 < minutes then toString minutes ++ "m " ++ text else text

def rateText (packets : Int) (span : Rat) : Except Fault String :=
  if 0 < span then
    (measured packets).map fun total => oneDecimal (roundBinary64 (total / span))
  else .ok "0.0"

/-- New events among those handed out or seen before, in percent. -/
def newEventsText (programmes repeats : Int) : Except Fault String :=
  let all := programmes + repeats
  if all = 0 then .ok "-"
  else
    (measured ((programmes : Rat) / (all : Rat))).map fun ratio =>
      placesText 0 (decide (programmes < 0) != decide (all < 0)) (roundBinary64 (ratio * 100)) ++
        "%"

def throughputRows : Except Fault (List (List String)) := do
  let c := s.counters
  let span ← elapsed s.started s.now
  let rate ← rateText c.packets span
  let newEvents ← newEventsText c.programmes c.repeats
  let intact ← bar (c.packets - c.crcErrors) c.packets 20
  let rates ← sparkline s.rates 20
  return [["Duration:", spanText span], ["Sections/s:", rate], ["New events:", newEvents],
    ["CRC ok:", intact.plain], ["Rate:", rates.plain]]

def programmeRows : List (List String) :=
  if s.recent.isEmpty then [["", "", "Waiting for programmes..."]]
  else s.recent.map fun row => [drawn row.channel, row.start, drawn row.title]

/-- Whole seconds and microseconds of a clock reading, the microseconds rounded to even. -/
def splitReading (reading : Rat) : Int × Int :=
  let whole := truncate reading
  let micros := roundInteger (roundBinary64 ((reading - (whole : Rat)) * 1000000))
  if 1000000 ≤ micros then (whole + 1, micros - 1000000)
  else if micros < 0 then (whole - 1, micros + 1000000)
  else (whole, micros)

/-- The years that the system can count, from 1900 in 32 bits with a sign. -/
def isCountable (year : Int) : Bool :=
  -maxYears + 1900 ≤ year && year < maxYears + 1900
where
  maxYears : Int := 1 <<< 31

/-- Judges the second of a message. The calendar must have it and the same time a day before. -/
def checkSecond (t : Int) : Except Fault Unit :=
  let year := (Calendar.Instant.date t).year
  let yearBefore := (Calendar.Instant.date (t - Calendar.Instant.secondsPerDay)).year
  if t < -maxCount ∨ maxCount ≤ t then .error .tooLarge
  else if !isCountable year then .error .yearUncountable
  else if !Calendar.Instant.inCalendar t then .error (.year year)
  else if yearBefore < 1 then .error (.year yearBefore)
  else .ok ()

def timeText (t : Tick) : Except Fault String := do
  let reading ← seconds t
  let (second, micros) := splitReading reading
  checkSecond second
  return padded 2 (Calendar.Instant.hour second) ++ ":" ++
    padded 2 (Calendar.Instant.minute second) ++ ":" ++
    padded 2 (Calendar.Instant.second second) ++ "." ++ padded 3 (micros / 1000)

/-- A line of the log: the time of day, the level in five columns, and the message. -/
def lineText (line : LogLine) : Except Fault String :=
  let level := line.level.toList.take 5
  let level := String.ofList (level ++ List.replicate (5 - level.length) ' ')
  (timeText line.time).map fun time =>
    time ++ "  " ++ drawn level ++ "  " ++ drawn line.message ++ "\n"

def linesText : List LogLine → Except Fault String
  | [] => .ok ""
  | line :: rest => do
    let first ← lineText line
    let others ← linesText rest
    return first ++ others

def logText : Except Fault String :=
  if s.messages.isEmpty then .ok "No messages" else linesText s.messages

def panels : Except Fault Panels := do
  let throughput ← s.throughputRows
  let log ← s.logText
  return ⟨s.header, s.counterRows, throughput, s.programmeRows, log⟩

end Drawn

/-! ### What happens -/

def ofStart (start : Tick) (refreshRate : Rat) : Except Fault Session := do
  let _ ← seconds start
  return { counters := Counters.zero, refreshRate := refreshRate, now := start, isDrawing := false
           started := start, lastRefresh := 0, recent := [], messages := [], rates := []
           rateMark := (start, 0) }

variable (s : Session)

def advance (span : Tick) : Session := { s with now := s.now + span }

def start : Except Fault Session :=
  if s.isDrawing then .ok s
  else do
    let started := { s with
      isDrawing := true, started := s.now, rateMark := (s.now, s.counters.packets) }
    let _ ← started.panels
    return started

def stop : Except Fault Session :=
  if s.isDrawing then do
    let _ ← s.panels
    return { s with isDrawing := false }
  else .ok s

/-- Draws now, if drawing. -/
def refresh : Except Fault Session :=
  if s.isDrawing then do
    let _ ← s.panels
    return { s with lastRefresh := s.now }
  else .ok s

def sampleRate : Except Fault Session := do
  let span ← elapsed s.rateMark.1 s.now
  if 1 ≤ span then
    return { s with
      rates := lastEntries 40 (s.rates ++ [s.counters.packets - s.rateMark.2])
      rateMark := (s.now, s.counters.packets) }
  else return s

/-- How many seconds pass between two drawings. -/
def interval : Except Fault Rat :=
  if s.refreshRate = 0 then .error .noRate
  else (measured s.refreshRate).map fun rate => roundBinary64 (1 / rate)

/-- Takes new counters in and draws, unless it was drawn too short a time ago. -/
def update (counters : Option Counters) : Except Fault Session := do
  let sampled ← { s with counters := counters.getD s.counters }.sampleRate
  let span ← elapsed sampled.lastRefresh sampled.now
  let interval ← sampled.interval
  if interval ≤ span then sampled.refresh else return sampled

def addProgramme (channel : String) (p : Programme) : Session :=
  let start := Calendar.Instant.weekdayName p.start ++ " " ++
    padded 2 (Calendar.Instant.hour p.start) ++ ":" ++ padded 2 (Calendar.Instant.minute p.start)
  let title := Text.unescape (p.title?.getD "") ++ (if p.isUpdate then " (updated)" else "")
  { s with recent := (⟨channel, start, title⟩ :: s.recent).take 10 }

def log (level message : String) : Except Fault Session := do
  let _ ← seconds s.now
  return { s with messages := lastEntries 6 (s.messages ++ [⟨s.now, level, message⟩]) }

def lastRefreshMillis : Except Fault Int := do
  let reading ← seconds s.lastRefresh
  let millis ← measured (reading * 1000)
  return roundInteger millis

end Session

/-! ### Log records -/

def levelName (level : Int) : String :=
  if level = 0 then "NOTSET"
  else if level = 10 then "DEBUG"
  else if level = 20 then "INFO"
  else if level = 30 then "WARNING"
  else if level = 40 then "ERROR"
  else if level = 50 then "CRITICAL"
  else "Level " ++ toString level

structure RecordValue where
  text : String
  whole : Option Int
  deriving DecidableEq, Repr

def fillPlaces : List Char → List RecordValue → Except Fault (List Char)
  | '%' :: 's' :: rest, value :: values => (fillPlaces rest values).map (value.text.toList ++ ·)
  | '%' :: 'd' :: rest, value :: values =>
    match value.whole with
    | some n => (fillPlaces rest values).map ((toString n).toList ++ ·)
    | none => .error .recordTexts
  | '%' :: '%' :: rest, values => (fillPlaces rest values).map ('%' :: ·)
  | ['%'], _ => .error .recordFormat
  | '%' :: 's' :: _, [] => .error .recordTexts
  | '%' :: 'd' :: _, [] => .error .recordTexts
  | c :: rest, values => (fillPlaces rest values).map (c :: ·)
  | [], values => if values.isEmpty then .ok [] else .error .recordTexts

/-- The message of a record. A format without values is taken as it is. -/
def recordMessage (format : String) (values : List RecordValue) : Except Fault String :=
  if values.isEmpty then .ok format else (fillPlaces format.toList values).map String.ofList

end BroadcastGuide.Monitor
