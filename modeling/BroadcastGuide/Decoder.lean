import BroadcastGuide.Counters
import BroadcastGuide.Descriptor.Projection
import BroadcastGuide.EventSection
import BroadcastGuide.Settings

/-!
From event sections to programmes. An event is received by its version, dated, held against the
windows, and filled from its descriptors; one without a title is left out.
-/

namespace BroadcastGuide

open Calendar (Instant OutOfCalendar)

/-- What a run remembers from one section to the next. -/
structure DecoderState where
  counters : Counters
  versions : Versions
  deriving DecidableEq, Repr

namespace DecoderState

def initial : DecoderState := ⟨Counters.zero, Versions.empty⟩

def count (s : DecoderState) (f : Counters → Counters) : DecoderState :=
  { s with counters := f s.counters }

end DecoderState

inductive DecoderFault
  | outOfCalendar
  /-- The codec of the default encoding refuses a text. -/
  | refused (fault : Text.CodecFault)
  deriving DecidableEq, Repr

/-- A state, and a result unless decoding broke off. -/
structure Decoded (α : Type) where
  state : DecoderState
  result : Except DecoderFault α

namespace Decoder

/-- When an event starts and stops, or nothing if its time fields are malformed. -/
def times (settings : Settings) (record : EventRecord) :
    Except OutOfCalendar (Option (Instant × Instant)) :=
  match record.start settings.timeOffset with
  | .error .outOfCalendar => .error {}
  | .error (.malformed _) => .ok none
  | .ok start =>
    match record.duration with
    | .error _ => .ok none
    | .ok seconds =>
      match start.shift seconds with
      | .error e => .error e
      | .ok stop => .ok (some (start, stop))

def outline (info : EventSection) (record : EventRecord) (start stop : Instant)
    (isUpdate : Bool) : Programme :=
  { Programme.blank info.serviceId record.eventId start stop with
    version := info.version
    runningStatus := record.runningStatus
    freeCaMode := record.freeCaMode
    isUpdate := isUpdate }

/-- Fills a programme from a descriptor loop and counts what the loop held. What comes before a text
that the codec refuses is counted as well. -/
def fill (settings : Settings) (state : DecoderState) (loop : Octets) (p : Programme) :
    Decoded (Option Programme) :=
  match DescriptorLoop.ofBytes loop with
  | .error _ => ⟨state.count fun c => { c with decodeErrors := c.decodeErrors + 1 }, .ok none⟩
  | .ok read =>
    let (tally, refusal) := settings.codec.tallyFields (Projection.fields read.descriptors)
    let unknown := Projection.unknowns 0 (Projection.reached settings.codec read.descriptors)
    let state := state.count fun c =>
      { c with
        decodeErrors := c.decodeErrors + read.dropped.length + tally.errors
        textWarnings := c.textWarnings + tally.warnings
        unknownDescriptors := c.unknownDescriptors + unknown.length }
    match refusal with
    | some fault => ⟨state, .error (.refused fault)⟩
    | none =>
      let filled := (Projection.project settings.table read.descriptors p).value
      if filled.titles.isEmpty then
        ⟨state.count fun c => { c with missingTitles := c.missingTitles + 1 }, .ok none⟩
      else ⟨state.count fun c => { c with programmes := c.programmes + 1 }, .ok (some filled)⟩

/-- Dates an admitted event, holds it against the windows and fills it. -/
def admitted (settings : Settings) (now : Instant) (info : EventSection)
    (state : DecoderState) (record : EventRecord) (isUpdate : Bool) : Decoded (Option Programme) :=
  let invalid := state.count fun c => { c with invalidDates := c.invalidDates + 1 }
  match times settings record with
  | .error _ => ⟨state, .error .outOfCalendar⟩
  | .ok none => ⟨invalid, .ok none⟩
  | .ok (some (start, stop)) =>
    match settings.inWindow now stop with
    | .error _ => ⟨state, .error .outOfCalendar⟩
    | .ok inside =>
      if !inside && !settings.includeInvalidDates then ⟨invalid, .ok none⟩
      else
        fill settings (if inside then state else invalid) record.descriptors
          (outline info record start stop isUpdate)

def record (settings : Settings) (now : Instant) (info : EventSection) (state : DecoderState)
    (record : EventRecord) : Decoded (Option Programme) :=
  let key : EventKey := ⟨info.serviceId, record.eventId⟩
  let (admission, versions) := state.versions.receive settings.versionPolicy key info.version
  let state := { state with versions := versions }
  match admission with
  | .repeated => ⟨state.count fun c => { c with repeats := c.repeats + 1 }, .ok none⟩
  | .fresh => admitted settings now info state record false
  | .updated =>
    let state := state.count fun c => { c with updates := c.updates + 1 }
    if settings.emitUpdates then admitted settings now info state record true
    else ⟨state, .ok none⟩

def records (settings : Settings) (now : Instant) (info : EventSection)
    (state : DecoderState) : List EventRecord → Decoded (List Programme)
  | [] => ⟨state, .ok []⟩
  | r :: rest =>
    let first := record settings now info state r
    match first.result with
    | .error e => ⟨first.state, .error e⟩
    | .ok p =>
      let others := records settings now info first.state rest
      match others.result with
      | .error e => ⟨others.state, .error e⟩
      | .ok ps => ⟨others.state, .ok (p.toList ++ ps)⟩

/-- Decodes all events of a section. A fault in the record walk costs the rest of the section. -/
def decode (settings : Settings) (now : Instant) (state : DecoderState)
    (info : EventSection) : Decoded (List Programme) :=
  let walk := info.events
  let decoded := records settings now info state walk.records
  match decoded.result, walk.fault with
  | .ok ps, some _ =>
    ⟨decoded.state.count fun c => { c with decodeErrors := c.decodeErrors + 1 }, .ok ps⟩
  | result, _ => ⟨decoded.state, result⟩

end Decoder

end BroadcastGuide
