import BroadcastGuide.Calendar.Field
import BroadcastGuide.Section.Frame

/-!
Sections of event information: fourteen bytes of header, then event records up to the checksum.
-/

namespace BroadcastGuide

/-- An event as sent, times and descriptors still in bytes. -/
structure EventRecord where
  eventId : Nat
  startField : Octets
  durationField : Octets
  runningStatus : Nat
  freeCaMode : Bool
  descriptors : Octets
  deriving DecidableEq, Repr

namespace EventRecord

/-- Records in order, and the fault that ended the walk, if one did. -/
structure Walk where
  records : List EventRecord
  fault : Option DecodeError
  deriving DecidableEq, Repr

/-- Walks what is left of the event data from a given offset on. A record without descriptors ends
the walk. -/
def walkFrom (offset : Nat) (bytes : Octets) : Walk :=
  match bytes with
  | [] => ⟨[], none⟩
  | i₁ :: i₀ :: t₄ :: t₃ :: t₂ :: t₁ :: t₀ :: d₂ :: d₁ :: d₀ :: l₁ :: l₀ :: rest =>
    let loop := l₁.toNat % 16 * 256 + l₀.toNat
    if loop = 0 then ⟨[], none⟩
    else if rest.length < loop then ⟨[], some (.eventLoopOverrun loop offset)⟩
    else
      let record : EventRecord :=
        { eventId := Octets.word i₁ i₀
          startField := [t₄, t₃, t₂, t₁, t₀]
          durationField := [d₂, d₁, d₀]
          runningStatus := l₁.toNat / 32
          freeCaMode := decide (l₁.toNat / 16 % 2 = 1)
          descriptors := rest.take loop }
      let tail := walkFrom (offset + 12 + loop) (rest.drop loop)
      { tail with records := record :: tail.records }
  | _ => ⟨[], some (.eventHeaderOverrun offset)⟩
termination_by bytes.length
decreasing_by
  simp only [List.length_drop, List.length_cons]
  omega

def start (r : EventRecord) (hourOffset : Int) : Except Calendar.StartFault Calendar.Instant :=
  Calendar.StartTime.decode r.startField hourOffset

def duration (r : EventRecord) : Except DecodeError Nat :=
  Calendar.Duration.decode r.durationField

end EventRecord

structure EventSection where
  tableId : Nat
  serviceId : Nat
  version : Nat
  isCurrent : Bool
  number : Nat
  lastNumber : Nat
  transportStreamId : Nat
  originalNetworkId : Nat
  segmentLastNumber : Nat
  segmentLastTableId : Nat
  eventData : Octets
  deriving DecidableEq, Repr

inductive SectionFault
  | malformed (error : DecodeError)
  | checksum (tableId size : Nat)
  deriving DecidableEq, Repr

def SectionFault.message : SectionFault → String
  | .malformed e => e.message
  | .checksum id size =>
    s!"CRC mismatch in section table_id=0x{Numeral.hexUpper 2 id} ({size} bytes)"

namespace EventSection

def ofRaw (raw : RawSection) : Except DecodeError EventSection :=
  if !Table.isEventInformation raw.tableId.toNat then
    .error (.notEventInformation raw.tableId.toNat)
  else if raw.totalLength < 18 then .error (.eventSectionTooShort raw.totalLength)
  else
    match raw.bytes with
    | table :: _ :: _ :: s₁ :: s₀ :: flags :: number :: last :: t₁ :: t₀ :: o₁ :: o₀ :: segment ::
        lastTable :: rest =>
      .ok
        { tableId := table.toNat
          serviceId := Octets.word s₁ s₀
          version := flags.toNat / 2 % 32
          isCurrent := decide (flags.toNat % 2 = 1)
          number := number.toNat
          lastNumber := last.toNat
          transportStreamId := Octets.word t₁ t₀
          originalNetworkId := Octets.word o₁ o₀
          segmentLastNumber := segment.toNat
          segmentLastTableId := lastTable.toNat
          eventData := rest.take (rest.length - 4) }
    | _ => .error (.eventSectionTooShort raw.totalLength)

/-- Frames a section and reads its header; the checksum is judged in between if wanted. -/
def ofBytes (bytes : Octets) (verify : Bool) : Except SectionFault EventSection :=
  match RawSection.ofBytes bytes with
  | .error e => .error (.malformed e)
  | .ok raw =>
    if verify && !raw.isIntact then .error (.checksum raw.tableId.toNat raw.totalLength)
    else
      match ofRaw raw with
      | .ok s => .ok s
      | .error e => .error (.malformed e)

def events (s : EventSection) : EventRecord.Walk := EventRecord.walkFrom 0 s.eventData

def summary (s : EventSection) : String :=
  "EITSection(" ++ Table.describe s.tableId ++ ", sid=" ++ toString s.serviceId ++ ", version=" ++
    toString s.version ++ ", section=" ++ toString s.number ++ "/" ++ toString s.lastNumber ++ ")"

end EventSection

end BroadcastGuide
