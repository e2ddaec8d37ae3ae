import BroadcastGuide.Decoder
import BroadcastGuide.Proofs.Descriptor.Encoding
import BroadcastGuide.Proofs.EventSection
import Mathlib.Data.List.Forall2

/-! What a broadcaster plans, as the sections that carry it and as the programmes that a guide
should show. -/

namespace BroadcastGuide

open Calendar (Instant)

/-- An event with a name and a text in one language, of which its fields can hold every part. -/
structure PlannedEvent where
  eventId : Nat
  start : Instant
  duration : Nat
  runningStatus : Nat
  freeCaMode : Bool
  language : Octets
  name : Octets
  text : Octets
  eventId_lt : eventId < 65536
  start_ge : Instant.midnight ⟨1900, 3, 1⟩ ≤ start
  start_lt : start < Instant.midnight ⟨2038, 4, 23⟩
  duration_lt : duration < 360000
  runningStatus_lt : runningStatus < 8
  length_language : language.length = 3
  name_plain : Text.IsPlain name
  some_name : name ≠ []
  text_plain : Text.IsPlain text
  room : 5 + name.length + text.length ≤ 255

namespace PlannedEvent

variable (e : PlannedEvent)

def stop : Instant := e.start + e.duration

def descriptor : DescriptorBlock :=
  ⟨Descriptor.shortEventTag, ShortEvent.payload e.language e.name e.text⟩

def record : Except EncodeError EventRecord := do
  let startField ← Calendar.StartTime.encode e.start
  let durationField ← Calendar.Duration.encode e.duration
  return {
    eventId := e.eventId
    startField := startField
    durationField := durationField
    runningStatus := e.runningStatus
    freeCaMode := e.freeCaMode
    descriptors := e.descriptor.encode }

/-- What tells an event of one service from all others. -/
def key (serviceId : Int) : EventKey := ⟨serviceId, e.eventId⟩

def programme (serviceId version : Int) : Programme :=
  { Programme.blank serviceId e.eventId e.start e.stop with
    version := version
    runningStatus := e.runningStatus
    freeCaMode := e.freeCaMode
    titles := [⟨Language.ofBytes e.language, Text.escape (Text.plainText e.name)⟩]
    subtitles :=
      if e.text = [] then []
      else [⟨Language.ofBytes e.language, Text.escape (Text.plainText e.text)⟩] }

end PlannedEvent

/-- A section of event information with the events that it is to carry. -/
structure PlannedSection where
  header : SectionHeader
  transportStreamId : Nat
  originalNetworkId : Nat
  segmentLastNumber : UInt8
  segmentLastTableId : UInt8
  events : List PlannedEvent
  carries : Table.isEventInformation header.tableId = true
  transportStreamId_lt : transportStreamId < 65536
  originalNetworkId_lt : originalNetworkId < 65536

namespace PlannedSection

variable (s : PlannedSection)

def body (records : List EventRecord) : Octets :=
  EventSection.body s.transportStreamId s.originalNetworkId s.segmentLastNumber
    s.segmentLastTableId (records.flatMap EventRecord.encode)

def encode : Except EncodeError Octets := do
  let records ← s.events.mapM PlannedEvent.record
  s.header.build (s.body records)

def programmes : List Programme :=
  s.events.map fun e => e.programme s.header.extension s.header.version

def keys : List EventKey := s.events.map (·.key s.header.extension)

end PlannedSection

/-! ### Reading back -/

theorem forall₂_of_mapM {ε α β : Type} {f : α → Except ε β} {xs : List α} {ys : List β}
    (h : xs.mapM f = .ok ys) : List.Forall₂ (fun x y => f x = .ok y) xs ys := by
  induction xs generalizing ys with
  | nil =>
    cases h
    exact .nil
  | cons x rest ih =>
    rw [List.mapM_cons] at h
    obtain ⟨y, hy, h⟩ := exists_of_bind_eq_ok h
    obtain ⟨later, hlater, h⟩ := exists_of_bind_eq_ok h
    cases h
    exact .cons hy (ih hlater)

namespace PlannedEvent

variable {e : PlannedEvent} {r : EventRecord}

theorem length_descriptor (e : PlannedEvent) :
    e.descriptor.encode.length = 7 + e.name.length + e.text.length := by
  have hl := e.length_language
  simp only [descriptor, DescriptorBlock.encode, List.length_cons, ShortEvent.length_payload]
  omega

structure IsIn (e : PlannedEvent) (r : EventRecord) : Prop where
  fits : r.Fits
  eventId : r.eventId = e.eventId
  start : r.start 0 = .ok e.start
  duration : r.duration = .ok e.duration
  runningStatus : r.runningStatus = e.runningStatus
  freeCaMode : r.freeCaMode = e.freeCaMode
  descriptors : r.descriptors = e.descriptor.encode

/-- Every event has a record, and its record holds all of it. -/
theorem exists_record (e : PlannedEvent) : ∃ r, e.record = .ok r ∧ e.IsIn r := by
  obtain ⟨d₁, d₀, b₂, b₁, b₀, hstart, hstart'⟩ :=
    Calendar.StartTime.exists_encode e.start_ge e.start_lt
  obtain ⟨c₂, c₁, c₀, hduration, hduration'⟩ := Calendar.Duration.exists_encode e.duration_lt
  have hlength := e.length_descriptor
  have hroom := e.room
  have hrecord : e.record = .ok
      { eventId := e.eventId
        startField := [d₁, d₀, b₂, b₁, b₀]
        durationField := [c₂, c₁, c₀]
        runningStatus := e.runningStatus
        freeCaMode := e.freeCaMode
        descriptors := e.descriptor.encode } := by
    simp only [record, hstart, hduration, bind, Except.bind, pure, Except.pure]
  refine ⟨_, hrecord, ⟨?_, rfl, hstart', hduration', rfl, rfl, rfl⟩⟩
  exact ⟨e.eventId_lt, rfl, rfl, e.runningStatus_lt, by dsimp only; omega, by dsimp only; omega⟩

theorem isIn_of_record (h : e.record = .ok r) : e.IsIn r := by
  obtain ⟨r', hr', hin⟩ := e.exists_record
  rw [hr'] at h
  cases h
  exact hin

theorem fits_of_isIn {events : List PlannedEvent} {records : List EventRecord}
    (h : List.Forall₂ IsIn events records) : ∀ r ∈ records, r.Fits := by
  induction h with
  | nil => exact fun r hr => absurd hr List.not_mem_nil
  | cons hin _ ih =>
    intro r hr
    rcases List.mem_cons.mp hr with rfl | hr
    · exact hin.fits
    · exact ih r hr

/-- The descriptors of an event, as a loop is read. -/
theorem ofBytes_descriptor (e : PlannedEvent) :
    DescriptorLoop.ofBytes e.descriptor.encode =
      .ok ⟨[.shortEvent ⟨Language.ofBytes e.language, e.name, e.text⟩], []⟩ := by
  have hl := e.length_language
  have hroom := e.room
  have hsize : ∀ b ∈ [e.descriptor], b.payload.length < 256 := by
    intro b hb
    rw [List.mem_singleton.mp hb, descriptor, ShortEvent.length_payload]
    omega
  have hwalk := DescriptorBlock.walkFrom_encode hsize 0 e.descriptor.encode.length
  rw [List.flatMap_singleton] at hwalk
  have hname : e.name.length < 256 := by omega
  have htext : e.text.length < 256 := by omega
  have hshort := ShortEvent.ofPayload_payload hl hname htext []
  rw [List.append_nil] at hshort
  have hpayload : Descriptor.ofPayload e.descriptor.tag e.descriptor.payload =
      .ok (.shortEvent ⟨Language.ofBytes e.language, e.name, e.text⟩) := by
    rw [descriptor, Descriptor.ofPayload, if_pos rfl, hshort]
    rfl
  simp only [DescriptorLoop.ofBytes, DescriptorBlock.walk, hwalk, DescriptorLoop.ofBlocks, hpayload]

end PlannedEvent

namespace PlannedSection

variable {s : PlannedSection} {bytes : Octets}

/-- The bytes of a section are those of a framed section, whose records are those of its events. -/
theorem exists_raw (h : s.encode = .ok bytes) :
    ∃ (raw : RawSection) (info : EventSection) (records : List EventRecord), raw.bytes = bytes ∧
      (raw.tableId.toNat : Int) = s.header.tableId ∧ raw.isIntact = true ∧
      EventSection.ofRaw raw = .ok info ∧ (info.serviceId : Int) = s.header.extension ∧
      (info.version : Int) = s.header.version ∧ info.events = ⟨records, none⟩ ∧
      List.Forall₂ PlannedEvent.IsIn s.events records := by
  obtain ⟨records, hrecords, h⟩ := exists_of_bind_eq_ok h
  obtain ⟨fits, rfl⟩ := SectionHeader.build_eq_ok h
  have hin : List.Forall₂ PlannedEvent.IsIn s.events records :=
    (forall₂_of_mapM hrecords).imp fun _ _ => PlannedEvent.isIn_of_record
  have hfits := PlannedEvent.fits_of_isIn hin
  refine ⟨s.header.raw _ fits, _, records, rfl, SectionHeader.tableId_raw fits,
    SectionHeader.isIntact_raw fits, EventSection.ofRaw_raw s.transportStreamId_lt
      s.originalNetworkId_lt s.carries fits, ?_, ?_, EventRecord.walkFrom_encode hfits 0, hin⟩
  · exact Int.toNat_of_nonneg fits.extension.1
  · exact Int.toNat_of_nonneg fits.version.1

end PlannedSection

end BroadcastGuide
