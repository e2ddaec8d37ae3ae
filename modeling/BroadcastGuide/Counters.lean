/-!
What a run has counted so far.
-/

namespace BroadcastGuide

structure Counters where
  /-- Whole sections. -/
  packets : Int
  /-- Programmes handed out. -/
  programmes : Int
  /-- Newer versions of known events. -/
  updates : Int
  /-- Events already seen. -/
  repeats : Int
  invalidDates : Int
  crcErrors : Int
  missingTitles : Int
  unknownDescriptors : Int
  decodeErrors : Int
  textWarnings : Int
  /-- Sections that the table filter rejects or that carry no events. -/
  filtered : Int
  deriving DecidableEq, Repr

namespace Counters

def zero : Counters := ⟨0, 0, 0, 0, 0, 0, 0, 0, 0, 0, 0⟩

def statusLine (c : Counters) : String :=
  s!"Status: {c.packets} pkts, {c.programmes} prgms, {c.updates} updates, " ++
    s!"{c.invalidDates} invalid, {c.crcErrors} CRC err"

def toList (c : Counters) : List Int :=
  [c.packets, c.programmes, c.updates, c.repeats, c.invalidDates, c.crcErrors, c.missingTitles,
    c.unknownDescriptors, c.decodeErrors, c.textWarnings, c.filtered]

/-- The names of the counters, in the same order. -/
def names : List String :=
  ["packets", "programmes", "updates", "repeats", "invalid_dates", "crc_errors", "missing_titles",
    "unknown_descriptors", "decode_errors", "text_warnings", "filtered"]

/-- Counters from their values in order; values that are not there count as zero. -/
def ofList (values : List Int) : Counters :=
  let valueAt := fun i => values.getD i 0
  ⟨valueAt 0, valueAt 1, valueAt 2, valueAt 3, valueAt 4, valueAt 5, valueAt 6, valueAt 7,
    valueAt 8, valueAt 9, valueAt 10⟩

theorem ofList_toList (c : Counters) : ofList c.toList = c := rfl

end Counters

end BroadcastGuide
