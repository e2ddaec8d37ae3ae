import BroadcastGuide.Grabber
import BroadcastGuide.Proofs.Section.Scan

/-! A run over a source is the handling of the sections that a scan of its bytes finds. -/

namespace BroadcastGuide

open Calendar (Instant)

def Reader.Ending.fault? : Reader.Ending → Option GrabFault
  | .exhausted => none
  | .tooLarge e => some (.tooLarge e)

/-- The section of events in a framed one, if its table is wanted, its checksum right and its header
well formed. -/
def Settings.events? (settings : Settings) (raw : RawSection) : Option EventSection :=
  if settings.acceptsTable raw.tableId.toNat && raw.isIntact then (EventSection.ofRaw raw).toOption
  else none

namespace Grabber

def handleSections (settings : Settings) (now : Instant) (state : GrabState) :
    List RawSection → Handled
  | [] => ⟨state, [], none⟩
  | s :: rest =>
    let first := handle settings now state s
    match first.fault with
    | some fault => ⟨first.state, first.events, some fault⟩
    | none =>
      let tail := handleSections settings now first.state rest
      { tail with events := first.events ++ tail.events }

def programmesOf (events : List GrabEvent) : List Programme :=
  events.filterMap fun | .programme p => some p | .progress _ _ => none

theorem programmesOf_append (events later : List GrabEvent) :
    programmesOf (events ++ later) = programmesOf events ++ programmesOf later :=
  List.filterMap_append

theorem programmesOf_section (ps : List Programme) (counters : Counters) (touches : Nat) :
    programmesOf (ps.map .programme ++ [.progress counters touches]) = ps := by
  rw [programmesOf_append, programmesOf, List.filterMap_map, programmesOf]
  exact (List.append_nil _).trans List.filterMap_some

variable {settings : Settings} {now : Instant}

def seen (state : GrabState) : GrabState := state.count fun c => { c with packets := c.packets + 1 }

/-- A section that the table filter rejects is counted, and no more. -/
theorem handle_of_rejected {state : GrabState} {s : RawSection}
    (h : settings.acceptsTable s.tableId.toNat = false) :
    handle settings now state s =
      let next := (seen state).count fun c => { c with filtered := c.filtered + 1 }
      ⟨next, [.progress next.decoder.counters next.touches], none⟩ := by
  simp [handle, h, seen]

/-- A section with a wrong checksum is counted, and no more. -/
theorem handle_of_broken {state : GrabState} {s : RawSection}
    (h : settings.acceptsTable s.tableId.toNat = true) (hs : s.isIntact = false) :
    handle settings now state s =
      let next := (seen state).count fun c => { c with crcErrors := c.crcErrors + 1 }
      ⟨next, [.progress next.decoder.counters next.touches], none⟩ := by
  simp [handle, h, hs, seen]

/-- An intact section is decoded, and its programmes stand before the progress made. -/
theorem handle_of_intact {state : GrabState} {s : RawSection} {next : GrabState}
    {ps : List Programme} (h : settings.acceptsTable s.tableId.toNat = true)
    (hs : s.isIntact = true)
    (hd : decodeRaw settings now { seen state with touches := state.touches + 1 } s =
      (next, .ok ps)) :
    handle settings now state s =
      ⟨next, ps.map .programme ++ [.progress next.decoder.counters next.touches], none⟩ := by
  have hd' : decodeRaw settings now { seen state with touches := (seen state).touches + 1 } s =
      (next, .ok ps) := hd
  simp only [seen] at hd'
  simp [handle, h, hs, hd']

/-- An intact section in which decoding breaks off stops the run. -/
theorem handle_of_stopped {state : GrabState} {s : RawSection} {next : GrabState}
    {e : DecoderFault} (h : settings.acceptsTable s.tableId.toNat = true) (hs : s.isIntact = true)
    (hd : decodeRaw settings now { seen state with touches := state.touches + 1 } s =
      (next, .error e)) :
    handle settings now state s = ⟨next, [], some (.decoder e)⟩ := by
  have hd' : decodeRaw settings now { seen state with touches := (seen state).touches + 1 } s =
      (next, .error e) := hd
  simp only [seen] at hd'
  simp [handle, h, hs, hd']

/-- What stops a run at a section is that decoding breaks off, and no programmes are shown. -/
theorem handle_of_fault {state : GrabState} {s : RawSection} {fault : GrabFault}
    (h : (handle settings now state s).fault = some fault) :
    (∃ e, fault = .decoder e) ∧ (handle settings now state s).events = [] := by
  unfold handle at h ⊢
  dsimp only at h ⊢
  split at h
  · cases h
  · cases h
    exact ⟨⟨_, rfl⟩, rfl⟩

theorem carries_of_ofRaw {s : RawSection} {info : EventSection}
    (h : EventSection.ofRaw s = .ok info) : Table.isEventInformation s.tableId.toNat = true := by
  cases hcarries : Table.isEventInformation s.tableId.toNat with
  | true => rfl
  | false => simp [EventSection.ofRaw, hcarries] at h

theorem decodeRaw_of_ofRaw {s : RawSection} {info : EventSection}
    (h : EventSection.ofRaw s = .ok info) (settings : Settings) (now : Instant)
    (state : GrabState) :
    decodeRaw settings now state s =
      ({ state with decoder := (Decoder.decode settings now state.decoder info).state },
        (Decoder.decode settings now state.decoder info).result) := by
  simp only [decodeRaw, carries_of_ofRaw h, h, Bool.not_true, Bool.false_eq_true, if_false]

/-- A section without events to decode is done at once. -/
theorem handle_of_none (now : Instant) (state : GrabState) {s : RawSection}
    (h : settings.events? s = none) :
    ∃ next, handle settings now state s =
        ⟨next, [.progress next.decoder.counters next.touches], none⟩ ∧
      next.decoder.versions = state.decoder.versions := by
  cases accepted : settings.acceptsTable s.tableId.toNat with
  | false => exact ⟨_, handle_of_rejected accepted, rfl⟩
  | true =>
    cases intact : s.isIntact with
    | false => exact ⟨_, handle_of_broken accepted intact, rfl⟩
    | true =>
      have hraw : (EventSection.ofRaw s).toOption = none := by
        simpa [Settings.events?, accepted, intact] using h
      have hd : ∃ next, decodeRaw settings now
            { seen state with touches := state.touches + 1 } s = (next, .ok []) ∧
          next.decoder.versions = state.decoder.versions := by
        unfold decodeRaw
        split
        · exact ⟨_, rfl, rfl⟩
        · split
          · exact ⟨_, rfl, rfl⟩
          · rename_i info hinfo
            rw [hinfo] at hraw
            cases hraw
      obtain ⟨next, hd, hversions⟩ := hd
      exact ⟨next, handle_of_intact accepted intact hd, hversions⟩

theorem events?_eq_some {s : RawSection} {info : EventSection} :
    settings.events? s = some info ↔ settings.acceptsTable s.tableId.toNat = true ∧
      s.isIntact = true ∧ EventSection.ofRaw s = .ok info := by
  unfold Settings.events?
  cases settings.acceptsTable s.tableId.toNat <;> cases s.isIntact <;>
    cases EventSection.ofRaw s <;> simp [Except.toOption]

/-- A section of events is decoded. Its programmes stand before the progress made, and are not shown
if decoding breaks off. -/
theorem handle_of_some (now : Instant) (state : GrabState) {s : RawSection} {info : EventSection}
    (h : settings.events? s = some info) :
    let decoded := Decoder.decode settings now (seen state).decoder info
    let next : GrabState := ⟨decoded.state, state.touches + 1⟩
    handle settings now state s =
      match decoded.result with
      | .ok ps =>
        ⟨next, ps.map .programme ++ [.progress next.decoder.counters next.touches], none⟩
      | .error e => ⟨next, [], some (.decoder e)⟩ := by
  obtain ⟨accepted, intact, hinfo⟩ := events?_eq_some.mp h
  have hd := decodeRaw_of_ofRaw hinfo settings now
    { seen state with touches := state.touches + 1 }
  intro decoded next
  cases hresult : decoded.result with
  | ok ps => exact handle_of_intact accepted intact (hd.trans (congrArg (Prod.mk next) hresult))
  | error e => exact handle_of_stopped accepted intact (hd.trans (congrArg (Prod.mk next) hresult))

theorem handleSections_cons {state : GrabState} {s : RawSection}
    (h : (handle settings now state s).fault = none) (rest : List RawSection) :
    handleSections settings now state (s :: rest) =
      ⟨(handleSections settings now (handle settings now state s).state rest).state,
        (handle settings now state s).events ++
          (handleSections settings now (handle settings now state s).state rest).events,
        (handleSections settings now (handle settings now state s).state rest).fault⟩ := by
  simp only [handleSections, h]

theorem handleAll_eq {σ : Type} (settings : Settings) (now : Instant) (whole : Reader.Run σ)
    (state : GrabState) (sightings : List (Reader.Sighting σ)) :
    (handleAll settings now whole state sightings).events =
        (handleSections settings now state (sightings.map (·.found))).events ∧
      (handleAll settings now whole state sightings).state =
        (handleSections settings now state (sightings.map (·.found))).state ∧
      (handleAll settings now whole state sightings).fault =
        (handleSections settings now state (sightings.map (·.found))).fault.or
          whole.ending.fault? := by
  induction sightings generalizing state with
  | nil =>
    refine ⟨rfl, rfl, ?_⟩
    simp only [handleAll, handleSections, List.map_nil, Option.none_or]
    cases whole.ending <;> rfl
  | cons s rest ih =>
    simp only [handleAll, handleSections, List.map_cons]
    cases hf : (handle settings now state s.found).fault with
    | some fault => exact ⟨rfl, rfl, rfl⟩
    | none =>
      obtain ⟨he, hs, hfault⟩ := ih (handle settings now state s.found).state
      exact ⟨by rw [he], hs, hfault⟩

/-- A run handles the sections that its reader finds. -/
theorem run_handled {σ : Type} [ByteSource σ] (settings : Settings) (now : Instant) (source : σ) :
    let whole := readSections source settings.bufferCapacity
    let handled := handleSections settings now .initial (whole.sightings.map (·.found))
    (run settings now source).events = handled.events ∧
      (run settings now source).state = handled.state ∧
      (run settings now source).fault = handled.fault.or whole.ending.fault? :=
  handleAll_eq settings now (readSections source settings.bufferCapacity) .initial _

/-- A run shows what the handling of the sections of a scan shows. -/
theorem run_eq {σ : Type} [ByteSource σ] {source : σ} {data : Octets} (settings : Settings)
    (now : Instant) (h : Delivers source data) (hc : 3 ≤ settings.bufferCapacity) :
    let scan := Scan.ofBytes settings.bufferCapacity data
    let handled := handleSections settings now .initial (scan.sections.map (·.found))
    (run settings now source).events = handled.events ∧
      (run settings now source).state = handled.state ∧
      (run settings now source).fault = handled.fault.or scan.ending.fault? := by
  have hreport := report_readSections h hc
  have hsections : (readSections source settings.bufferCapacity).sightings.map (·.found) =
      (Scan.ofBytes settings.bufferCapacity data).sections.map (·.found) := by
    rw [← hreport, Reader.Run.report, List.map_map]
    rfl
  have hending : (readSections source settings.bufferCapacity).ending =
      (Scan.ofBytes settings.bufferCapacity data).ending := by
    rw [← hreport]
    rfl
  obtain ⟨hevents, hstate, hfault⟩ := run_handled settings now source
  rw [hsections] at hevents hstate hfault
  rw [hending] at hfault
  exact ⟨hevents, hstate, hfault⟩

/-- A run over sections one right after the other is the handling of them all. -/
theorem run_sections {σ : Type} [ByteSource σ] {source : σ} {sections : List RawSection}
    (settings : Settings) (now : Instant) (room : 3 ≤ settings.bufferCapacity)
    (start : ∀ s ∈ sections, isFiller s.tableId = false)
    (fits : ∀ s ∈ sections, s.bytes.length ≤ settings.bufferCapacity)
    (h : Delivers source (sections.flatMap (·.bytes))) :
    let handled := handleSections settings now .initial sections
    (run settings now source).events = handled.events ∧
      (run settings now source).state = handled.state ∧
      (run settings now source).fault = handled.fault := by
  have hscan : Scan.ofBytes settings.bufferCapacity (sections.flatMap (·.bytes)) =
      ⟨sections.map fun s => ⟨s, 0⟩, .exhausted, 0⟩ := Scan.scanFrom_sections start fits
  have hfound : (sections.map fun s => (⟨s, 0⟩ : Found)).map (·.found) = sections := by
    rw [List.map_map]
    exact List.map_id sections
  obtain ⟨hevents, hstate, hfault⟩ := run_eq settings now h room
  rw [hscan] at hevents hstate hfault
  simp only [hfound] at hevents hstate hfault
  exact ⟨hevents, hstate, hfault.trans Option.or_none⟩

end Grabber

end BroadcastGuide
