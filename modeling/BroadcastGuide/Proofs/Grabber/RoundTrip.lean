import BroadcastGuide.Proofs.Broadcast
import BroadcastGuide.Proofs.Decoder.Totality
import BroadcastGuide.Proofs.Grabber.Run

/-! A run over planned sections gives the programmes that were planned, and counts nothing else. -/

namespace BroadcastGuide

/-- Settings that take every table, times as they are sent and text of the default table. -/
structure Settings.TakesAll (settings : Settings) : Prop where
  timeOffset : settings.timeOffset = 0
  tableMask : settings.tableMask = 0
  defaultEncoding : settings.defaultEncoding = none

def PlannedEvent.IsCurrent (settings : Settings) (now : Int) (e : PlannedEvent) : Prop :=
  now - settings.pastWindow ≤ e.stop ∧ e.stop ≤ now + settings.futureWindow

namespace Decoder

variable {settings : Settings} {now : Int}

/-- So many sections and programmes later, and the programmes are of no events but these. -/
structure Adds (packets programmes : Nat) (keys : List EventKey) (before after : DecoderState) :
    Prop where
  counters : after.counters = { before.counters with
    packets := before.counters.packets + packets
    programmes := before.counters.programmes + programmes }
  versions : ∀ key, key ∉ keys → after.versions.version? key = before.versions.version? key

theorem Adds.trans {packets programmes packets' programmes' : Nat} {keys keys' : List EventKey}
    {before between after : DecoderState} (h : Adds packets programmes keys before between)
    (h' : Adds packets' programmes' keys' between after) :
    Adds (packets + packets') (programmes + programmes') (keys ++ keys') before after := by
  constructor
  · rw [h'.counters, h.counters]
    simp only [Counters.mk.injEq, and_self, and_true]
    omega
  · intro key hkey
    rw [List.mem_append, not_or] at hkey
    rw [h'.versions key hkey.2, h.versions key hkey.1]

/-- Events that are not among the ones added stay new. -/
theorem Adds.new {packets programmes : Nat} {keys keys' : List EventKey}
    {before after : DecoderState} (h : Adds packets programmes keys before after)
    (distinct : (keys ++ keys').Nodup)
    (new : ∀ key ∈ keys ++ keys', before.versions.version? key = none) :
    ∀ key ∈ keys', after.versions.version? key = none := by
  intro key hkey
  have hother : key ∉ keys := fun hmem => (List.nodup_append.mp distinct).2.2 key hmem key hkey rfl
  rw [h.versions key hother, new key (List.mem_append_right _ hkey)]

theorem times_planned (takes : settings.TakesAll) {e : PlannedEvent} {r : EventRecord}
    (h : e.IsIn r) : times settings r = .ok (some (e.start, e.stop)) := by
  have hlow : (-2203891200 : Int) ≤ e.start := e.start_ge
  have hhigh : (2155593600 : Int) > e.start := e.start_lt
  have hduration := e.duration_lt
  have hin : Calendar.Instant.inCalendar (e.start + e.duration) = true :=
    Calendar.Instant.inCalendar_iff.mpr (by omega)
  have hstop := Calendar.Instant.shift_eq hin
  simp only [times, takes.timeOffset, h.start, h.duration, hstop]
  rfl

theorem fill_planned (takes : settings.TakesAll) {e : PlannedEvent} {r : EventRecord}
    (h : e.IsIn r) (state : DecoderState) {p : Programme} (hp : p.titles = [])
    (hp' : p.subtitles = []) :
    fill settings state r.descriptors p =
      ⟨state.count fun c => { c with programmes := c.programmes + 1 },
        .ok (some { p with
          titles := [⟨Language.ofBytes e.language, Text.escape (Text.plainText e.name)⟩]
          subtitles :=
            if e.text = [] then []
            else [⟨Language.ofBytes e.language, Text.escape (Text.plainText e.text)⟩] })⟩ := by
  have hcodec : settings.codec = Text.CharacterTable.latin.codec := by
    rw [Settings.codec, takes.defaultEncoding]
  have total : settings.codec.IsTotal := hcodec ▸ Text.CharacterTable.latin.codec_isTotal
  have htable : settings.codec.table = .latin := by
    rw [hcodec, Text.CharacterTable.table_codec]
  have hreached : Projection.reached settings.codec
      [.shortEvent ⟨Language.ofBytes e.language, e.name, e.text⟩] = _ :=
    Projection.reached_eq (by rw [total.tallyFields_eq])
  have hproject := Projection.project_shortEvent
    (d := ⟨Language.ofBytes e.language, e.name, e.text⟩) e.name_plain e.some_name e.text_plain p
  have htally := Projection.tally_project .latin
    [.shortEvent ⟨Language.ofBytes e.language, e.name, e.text⟩] p
  rw [hproject] at htally
  simp only [fill, h.descriptors, e.ofBytes_descriptor, total.tallyFields_eq, hreached,
    Settings.table, htable, ← htally, hproject, hp, hp', List.nil_append, List.isEmpty_cons]
  simp [DecoderState.count, Projection.unknowns]

theorem admitted_planned (takes : settings.TakesAll) (window : settings.WindowInCalendar now)
    {e : PlannedEvent} {r : EventRecord} (h : e.IsIn r) (current : e.IsCurrent settings now)
    (info : EventSection) (state : DecoderState) :
    admitted settings now info state r false =
      ⟨state.count fun c => { c with programmes := c.programmes + 1 },
        .ok (some (e.programme info.serviceId info.version))⟩ := by
  have hinside : settings.inWindow now e.stop = .ok true := by
    rw [Settings.inWindow_eq window]
    exact congrArg Except.ok (decide_eq_true current)
  have hfill := fill_planned takes h state (p := outline info r e.start e.stop false) rfl rfl
  simp only [admitted, times_planned takes h, hinside, Bool.not_true, Bool.false_and,
    Bool.false_eq_true, if_false, if_true, hfill]
  simp only [outline, PlannedEvent.programme, h.eventId, h.runningStatus, h.freeCaMode]
  rfl

/-- An event that is new and current gives its programme. -/
theorem record_planned (takes : settings.TakesAll) (window : settings.WindowInCalendar now)
    {e : PlannedEvent} {r : EventRecord} (h : e.IsIn r) (current : e.IsCurrent settings now)
    {info : EventSection} {state : DecoderState}
    (new : state.versions.version? (e.key info.serviceId) = none) :
    ∃ after, record settings now info state r =
        ⟨after, .ok (some (e.programme info.serviceId info.version))⟩ ∧
      Adds 0 1 [e.key info.serviceId] state after := by
  have hreceive : state.versions.receive settings.versionPolicy ⟨info.serviceId, r.eventId⟩
      info.version = (.fresh, state.versions.insert (e.key info.serviceId) info.version) := by
    rw [h.eventId, Versions.receive, ← PlannedEvent.key, new]
  refine ⟨⟨{ state.counters with programmes := state.counters.programmes + 1 },
    state.versions.insert (e.key info.serviceId) info.version⟩, ?_, ⟨?_, ?_⟩⟩
  · simp only [record, hreceive, admitted_planned takes window h current]
    rfl
  · simp
  · intro key hkey
    exact Versions.version?_insert_of_ne _ _ (fun h => hkey (List.mem_singleton.mpr h))

/-- Events that are all different, new and current give their programmes in order. -/
theorem records_planned (takes : settings.TakesAll) (window : settings.WindowInCalendar now)
    {info : EventSection} {events : List PlannedEvent} {records : List EventRecord}
    (h : List.Forall₂ PlannedEvent.IsIn events records)
    (current : ∀ e ∈ events, e.IsCurrent settings now) {state : DecoderState}
    (distinct : (events.map (·.key info.serviceId)).Nodup)
    (new : ∀ key ∈ events.map (·.key info.serviceId), state.versions.version? key = none) :
    ∃ after, Decoder.records settings now info state records =
        ⟨after, .ok (events.map (·.programme info.serviceId info.version))⟩ ∧
      Adds 0 events.length (events.map (·.key info.serviceId)) state after := by
  induction h generalizing state with
  | nil => exact ⟨state, rfl, ⟨by simp, fun _ _ => rfl⟩⟩
  | cons h _ ih =>
    rename_i e r events records _
    rw [List.map_cons] at distinct new
    obtain ⟨between, hfirst, hadds⟩ := record_planned takes window h (current e List.mem_cons_self)
      (new _ List.mem_cons_self)
    obtain ⟨after, hrest, hadds'⟩ := ih (fun e' he' => current e' (List.mem_cons_of_mem e he'))
      (List.nodup_cons.mp distinct).2 (hadds.new distinct new)
    refine ⟨after, ?_, ?_⟩
    · simp only [Decoder.records, hfirst, hrest]
      rfl
    · have htrans := hadds.trans hadds'
      rwa [Nat.add_comm 1] at htrans

theorem decode_planned (takes : settings.TakesAll) (window : settings.WindowInCalendar now)
    {info : EventSection} {events : List PlannedEvent} {records : List EventRecord}
    (walk : info.events = ⟨records, none⟩) (h : List.Forall₂ PlannedEvent.IsIn events records)
    (current : ∀ e ∈ events, e.IsCurrent settings now) {state : DecoderState}
    (distinct : (events.map (·.key info.serviceId)).Nodup)
    (new : ∀ key ∈ events.map (·.key info.serviceId), state.versions.version? key = none) :
    ∃ after, decode settings now state info =
        ⟨after, .ok (events.map (·.programme info.serviceId info.version))⟩ ∧
      Adds 0 events.length (events.map (·.key info.serviceId)) state after := by
  obtain ⟨after, hrecords, hadds⟩ := records_planned takes window h current distinct new
  exact ⟨after, by simp only [decode, walk, hrecords], hadds⟩

end Decoder

namespace Grabber

open Decoder (Adds)

variable {settings : Settings} {now : Int}

theorem isFiller_of_carries {b : UInt8} (h : Table.isEventInformation b.toNat = true) :
    isFiller b = false := by
  cases hb : isFiller b with
  | false => rfl
  | true =>
    simp only [isFiller, Bool.or_eq_true, beq_iff_eq] at hb
    rcases hb with rfl | rfl <;> exact absurd h (by decide)

/-- A planned section gives the programmes of its events. -/
theorem handle_planned (takes : settings.TakesAll) (window : settings.WindowInCalendar now)
    {s : PlannedSection} {bytes : Octets} (built : s.encode = .ok bytes)
    (current : ∀ e ∈ s.events, e.IsCurrent settings now) :
    ∃ raw : RawSection, raw.bytes = bytes ∧ isFiller raw.tableId = false ∧
      ∀ state : GrabState, s.keys.Nodup →
        (∀ key ∈ s.keys, state.decoder.versions.version? key = none) →
        (handle settings now state raw).fault = none ∧
          programmesOf (handle settings now state raw).events = s.programmes ∧
          Adds 1 s.events.length s.keys state.decoder
            (handle settings now state raw).state.decoder := by
  obtain ⟨raw, info, records, hbytes, htable, hintact, hinfo, hservice, hversion, hwalk, hin⟩ :=
    PlannedSection.exists_raw built
  have hcarries : Table.isEventInformation raw.tableId.toNat = true := by
    rw [htable, s.carries]
  have haccepts : settings.acceptsTable raw.tableId.toNat = true := by
    simp [Settings.acceptsTable, takes.tableMask]
  refine ⟨raw, hbytes, isFiller_of_carries hcarries, fun state distinct new => ?_⟩
  rw [PlannedSection.keys, ← hservice] at distinct new
  have hseen : ∀ key ∈ s.events.map (·.key info.serviceId),
    (seen state).decoder.versions.version? key = none := new
  obtain ⟨after, hdecode, hadds⟩ :=
    Decoder.decode_planned takes window hwalk hin current distinct hseen
  have hraw : decodeRaw settings now { seen state with touches := state.touches + 1 } raw =
      (⟨after, state.touches + 1⟩, .ok s.programmes) := by
    have hdecode' : Decoder.decode settings now
      { seen state with touches := state.touches + 1 }.decoder info = _ := hdecode
    simp only [decodeRaw, hcarries, hinfo, hdecode', Bool.not_true, Bool.false_eq_true, if_false]
    rw [hservice, hversion]
    rfl
  have hcounted : Adds 1 0 [] state.decoder (seen state).decoder := by
    constructor
    · simp [seen, GrabState.count, DecoderState.count]
    · intro key _
      rfl
  rw [handle_of_intact haccepts hintact hraw, PlannedSection.keys, ← hservice]
  refine ⟨rfl, programmesOf_section _ _ _, ?_⟩
  have htrans := hcounted.trans hadds
  rwa [Nat.zero_add] at htrans

/-- Planned sections give the programmes of their events in order. -/
theorem handleSections_planned (takes : settings.TakesAll) (window : settings.WindowInCalendar now)
    {sections : List PlannedSection} {encoded : List Octets}
    (built : List.Forall₂ (fun s bytes => s.encode = .ok bytes) sections encoded)
    (current : ∀ s ∈ sections, ∀ e ∈ s.events, e.IsCurrent settings now) :
    ∃ raws : List RawSection, raws.map (·.bytes) = encoded ∧
      (∀ raw ∈ raws, isFiller raw.tableId = false) ∧
      ∀ state : GrabState, (sections.flatMap (·.keys)).Nodup →
        (∀ key ∈ sections.flatMap (·.keys), state.decoder.versions.version? key = none) →
        (handleSections settings now state raws).fault = none ∧
          programmesOf (handleSections settings now state raws).events =
            sections.flatMap (·.programmes) ∧
          Adds sections.length (sections.flatMap (·.events)).length (sections.flatMap (·.keys))
            state.decoder (handleSections settings now state raws).state.decoder := by
  -- what one section adds leaves the events of all later sections new
  induction built with
  | nil =>
    refine ⟨[], rfl, fun raw hraw => absurd hraw List.not_mem_nil, fun state _ _ => ?_⟩
    exact ⟨rfl, rfl, ⟨by simp [handleSections], fun _ _ => rfl⟩⟩
  | cons hs _ ih =>
    rename_i s bytes sections encoded _
    obtain ⟨raw, hraw, hstart, hhandle⟩ :=
      handle_planned takes window hs (current s List.mem_cons_self)
    obtain ⟨raws, hraws, hstarts, hhandles⟩ :=
      ih fun t ht => current t (List.mem_cons_of_mem s ht)
    refine ⟨raw :: raws, by rw [List.map_cons, hraw, hraws], ?_, fun state distinct new => ?_⟩
    · intro t ht
      rcases List.mem_cons.mp ht with rfl | ht
      · exact hstart
      · exact hstarts t ht
    · rw [List.flatMap_cons] at distinct new
      obtain ⟨hfault, hprogrammes, hadds⟩ := hhandle state (List.nodup_append.mp distinct).1
        fun key hkey => new key (List.mem_append_left _ hkey)
      obtain ⟨hfault', hprogrammes', hadds'⟩ := hhandles (handle settings now state raw).state
        (List.nodup_append.mp distinct).2.1 (hadds.new distinct new)
      rw [handleSections_cons hfault]
      refine ⟨hfault', ?_, ?_⟩
      · rw [programmesOf_append, hprogrammes, hprogrammes', List.flatMap_cons]
      · have htrans := hadds.trans hadds'
        rw [Nat.add_comm 1, ← List.length_append] at htrans
        simpa only [List.flatMap_cons, List.length_cons] using htrans

end Grabber

/-- Noon of 2024-03-01. -/
def noon : Int := 1709294400

def newsAtNoon : PlannedEvent where
  eventId := 1
  start := noon
  duration := 1800
  runningStatus := 4
  freeCaMode := false
  language := [0x65, 0x6E, 0x67]
  name := [0x4E, 0x65, 0x77, 0x73]
  text := []
  eventId_lt := by decide
  start_ge := by decide
  start_lt := by decide
  duration_lt := by decide
  runningStatus_lt := by decide
  length_language := rfl
  name_plain := by decide +kernel
  some_name := by decide
  text_plain := by decide +kernel
  room := by decide

def afternoon : PlannedSection where
  header := ⟨0x4E, 1, 3, true, 0, 0⟩
  transportStreamId := 1
  originalNetworkId := 0x233A
  segmentLastNumber := 0
  segmentLastTableId := 0x4E
  events := [newsAtNoon, { newsAtNoon with
    eventId := 2, name := [0x51, 0x26, 0x41], text := [0x3E], eventId_lt := by decide
    name_plain := by decide +kernel, some_name := by decide, text_plain := by decide +kernel
    room := by decide }]
  carries := rfl
  transportStreamId_lt := by decide
  originalNetworkId_lt := by decide

def afternoonBytes : Octets :=
  [78, 240, 61, 0, 1, 199, 0, 0, 0, 1, 35, 58, 0, 78, 0, 1, 235, 210, 18, 0, 0, 0, 48, 0, 128, 11,
    77, 9, 101, 110, 103, 4, 78, 101, 119, 115, 0, 0, 2, 235, 210, 18, 0, 0, 0, 48, 0, 128, 11, 77,
    9, 101, 110, 103, 3, 81, 38, 65, 1, 62, 110, 151, 104, 31]

end BroadcastGuide
