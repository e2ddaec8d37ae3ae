import BroadcastGuide.Proofs.Grabber.Totality
import BroadcastGuide.Proofs.Versions
import Mathlib.Algebra.Ring.Int.Defs

/-! What becomes of the event records that a decoder comes to. Each has one outcome, and each
outcome is counted once. -/

namespace BroadcastGuide

open Calendar (Instant)

def Counters.outcomes (c : Counters) : Int :=
  c.repeats + c.updates + c.invalidDates + c.missingTitles + c.programmes

namespace Decoder

/-- An event record, and the decoder that comes to it. -/
structure Visit where
  now : Instant
  info : EventSection
  state : DecoderState
  record : EventRecord

namespace Visit

variable (settings : Settings) (x : Visit)

def decoded : Decoded (Option Programme) :=
  Decoder.record settings x.now x.info x.state x.record

def isAdmitted : Bool :=
  match (x.state.versions.receive settings.versionPolicy (keyOf x.info x.record)
      x.info.version).1 with
  | .fresh => true
  | .repeated => false
  | .updated => settings.emitUpdates

def isBroken : Bool :=
  x.isAdmitted settings && isDated settings x.now x.record &&
    !(DescriptorLoop.ofBytes x.record.descriptors).isOk

def isStopped : Bool := !(x.decoded settings).result.isOk

end Visit

/-- The records of a section that a decoder comes to: all of them, unless decoding breaks off. -/
def visits (settings : Settings) (now : Instant) (info : EventSection) (state : DecoderState) :
    List EventRecord → List Visit
  | [] => []
  | r :: rest =>
    let first := record settings now info state r
    ⟨now, info, state, r⟩ ::
      if first.result.isOk then visits settings now info first.state rest else []

def decodeAll (settings : Settings) (state : DecoderState) :
    List (Instant × EventSection) → DecoderState
  | [] => state
  | (now, info) :: rest => decodeAll settings (decode settings now state info).state rest

def visitsAll (settings : Settings) (state : DecoderState) :
    List (Instant × EventSection) → List Visit
  | [] => []
  | (now, info) :: rest =>
    visits settings now info state info.events.records ++
      visitsAll settings (decode settings now state info).state rest

/-! ### Measures that go up with each record -/

section Measure

variable (settings : Settings) (q : DecoderState → Int)

theorem records_sum (f : Visit → Int)
    (step : ∀ x : Visit, q (x.decoded settings).state = q x.state + f x)
    (now : Instant) (info : EventSection) (state : DecoderState) (rs : List EventRecord) :
    q (records settings now info state rs).state =
      q state + ((visits settings now info state rs).map f).sum := by
  induction rs generalizing state with
  | nil => simp [records, visits]
  | cons r rest ih =>
    have hfirst : q (record settings now info state r).state = q state + f ⟨now, info, state, r⟩ :=
      step ⟨now, info, state, r⟩
    have hrest := ih (record settings now info state r).state
    rw [visits, List.map_cons, List.sum_cons]
    rcases records_cases settings now info state r rest with
      ⟨e, hr, hall⟩ | ⟨p?, hr, hstate, -⟩
    · -- no record after this one is come to
      rw [hall, hr]
      simp only [Except.isOk, Except.toBool, Bool.false_eq_true, if_false, List.map_nil,
        List.sum_nil]
      omega
    · rw [hstate, hr]
      simp only [Except.isOk, Except.toBool, if_true]
      omega

/-- Over sections decoded in turn a measure goes up by what each record adds to it, if it has
nothing to do with faults. -/
theorem decodeAll_sum (f : Visit → Int)
    (step : ∀ x : Visit, q (x.decoded settings).state = q x.state + f x)
    (faults : ∀ state : DecoderState,
      q (state.count fun c => { c with decodeErrors := c.decodeErrors + 1 }) = q state)
    (state : DecoderState) (sections : List (Instant × EventSection)) :
    q (decodeAll settings state sections) =
      q state + ((visitsAll settings state sections).map f).sum := by
  induction sections generalizing state with
  | nil => simp [decodeAll, visitsAll]
  | cons s rest ih =>
    obtain ⟨now, info⟩ := s
    have hrecords := records_sum settings q f step now info state info.events.records
    have hdecode : q (decode settings now state info).state =
        q (records settings now info state info.events.records).state := by
      rcases state_decode settings now state info with h | h
      · rw [h]
      · rw [h, faults]
    have hrest := ih (decode settings now state info).state
    simp only [decodeAll, visitsAll, List.map_append, List.sum_append]
    omega

theorem sum_map_one_sub (p p' : Visit → Bool) (l : List Visit) :
    (l.map fun x => 1 - ((p x).toNat : Int) - ((p' x).toNat : Int)).sum =
      l.length - l.countP p - l.countP p' := by
  have hcount (p : Visit → Bool) (x : Visit) (l : List Visit) :
      (x :: l).countP p = l.countP p + (p x).toNat := by
    rw [List.countP_cons]
    cases p x <;> rfl
  induction l with
  | nil => rfl
  | cons x l ih =>
    rw [List.map_cons, List.sum_cons, ih, hcount, hcount, List.length_cons]
    omega

/-- Over sections decoded in turn a measure goes up by one with each record, but for those of two
kinds, if it does so with one record and has nothing to do with faults. -/
theorem decodeAll_measure (p p' : Visit → Bool)
    (step : ∀ x : Visit,
      q (x.decoded settings).state + (p x).toNat + (p' x).toNat = q x.state + 1)
    (faults : ∀ state : DecoderState,
      q (state.count fun c => { c with decodeErrors := c.decodeErrors + 1 }) = q state)
    (state : DecoderState) (sections : List (Instant × EventSection)) :
    q (decodeAll settings state sections) + (visitsAll settings state sections).countP p +
        (visitsAll settings state sections).countP p' =
      q state + (visitsAll settings state sections).length := by
  have hsum := decodeAll_sum settings q (fun x => 1 - ((p x).toNat : Int) - ((p' x).toNat : Int))
    (fun x => by have := step x; omega) faults state sections
  rw [sum_map_one_sub] at hsum
  omega

end Measure

/-! ### Outcomes of one record -/

variable {settings : Settings}

/-- Filling a programme counts a title that is missing, or the programme, unless the descriptors
break off or the codec refuses a text. -/
theorem fill_outcome (settings : Settings) (state : DecoderState) (loop : Octets) (p : Programme) :
    let filled := fill settings state loop p
    let after := filled.state.counters
    after.repeats = state.counters.repeats ∧ after.updates = state.counters.updates ∧
      after.invalidDates = state.counters.invalidDates ∧
      after.missingTitles + after.programmes + (!(DescriptorLoop.ofBytes loop).isOk).toNat +
          (!filled.result.isOk).toNat =
        state.counters.missingTitles + state.counters.programmes + 1 := by
  rcases fill_cases settings state loop p with
    ⟨e, hread, h⟩ | ⟨read, hread, ⟨fault, -, h⟩ | ⟨-, -, h⟩ | ⟨-, -, h⟩⟩
  all_goals
    refine ⟨by rw [h]; rfl, by rw [h]; rfl, by rw [h]; rfl, ?_⟩
    simp only [h, hread, noted, DecoderState.count, Except.isOk, Except.toBool, Bool.not_true,
      Bool.not_false, Bool.toNat_true, Bool.toNat_false]
    omega

theorem admitted_known (settings : Settings) (now : Instant) (info : EventSection)
    (state : DecoderState) (r : EventRecord) (isUpdate : Bool) :
    let after := (admitted settings now info state r isUpdate).state.counters
    after.repeats = state.counters.repeats ∧ after.updates = state.counters.updates := by
  rcases admitted_cases settings now info state r isUpdate with
    ⟨-, h | h⟩ | ⟨-, start, stop, inside, -, -, -, h⟩
  · simp only [h, and_self]
  · simp only [h, undated, DecoderState.count, and_self]
  · obtain ⟨hrepeats, hupdates, -⟩ := fill_outcome settings
      (if inside then state else undated state) r.descriptors (outline info r start stop isUpdate)
    simp only [h, hrepeats, hupdates]
    cases inside <;> exact ⟨rfl, rfl⟩

/-- A record is a repetition, or an update, or it adds an event to those known. -/
theorem record_known (x : Visit) :
    (x.decoded settings).state.counters.repeats + (x.decoded settings).state.counters.updates +
        (x.decoded settings).state.versions.size =
      x.state.counters.repeats + x.state.counters.updates + x.state.versions.size + 1 := by
  have hsize := Versions.size_receive settings.versionPolicy x.state.versions
    (keyOf x.info x.record) x.info.version
  rw [Visit.decoded, versions_record, hsize]
  rcases record_cases settings x.now x.info x.state x.record with
    ⟨hreceipt, h⟩ | ⟨hreceipt, -, h⟩ | ⟨hreceipt, -, h⟩ | ⟨hreceipt, h⟩
  · simp only [h, hreceipt, DecoderState.count, reduceCtorEq, if_false]
    omega
  · simp only [h, hreceipt, DecoderState.count, reduceCtorEq, if_false]
    omega
  · rw [h, (admitted_known settings x.now x.info _ x.record true).1,
      (admitted_known settings x.now x.info _ x.record true).2]
    simp only [hreceipt, DecoderState.count, reduceCtorEq, if_false]
    omega
  · rw [h, (admitted_known settings x.now x.info _ x.record false).1,
      (admitted_known settings x.now x.info _ x.record false).2]
    simp only [hreceipt, if_true]
    omega

theorem admitted_outcome (lasting : settings.includeInvalidDates = false) (now : Instant)
    (info : EventSection) (state : DecoderState) (r : EventRecord) (isUpdate : Bool) :
    let after := admitted settings now info state r isUpdate
    after.state.counters.outcomes +
        (isDated settings now r && !(DescriptorLoop.ofBytes r.descriptors).isOk).toNat +
        (!after.result.isOk).toNat =
      state.counters.outcomes + 1 := by
  intro after
  rcases admitted_cases settings now info state r isUpdate with
    ⟨hdated, h | h⟩ | ⟨hdated, start, stop, inside, -, -, passes, h⟩
  · simp [after, h, hdated, Except.isOk, Except.toBool]
  · simp only [after, h, hdated, undated, DecoderState.count, Counters.outcomes, Except.isOk,
      Except.toBool, Bool.false_and, Bool.not_true, Bool.toNat_false]
    omega
  · have hinside : inside = true := by simpa [lasting] using passes
    obtain ⟨hrepeats, hupdates, hinvalid, hfilled⟩ := fill_outcome settings state r.descriptors
      (outline info r start stop isUpdate)
    rw [hinside, if_pos rfl] at h
    simp only [after, h, hdated, Counters.outcomes, Bool.true_and, hrepeats, hupdates, hinvalid]
    omega

/-- If neither updates nor invalid dates are wanted, a record adds to one of five counters, unless
its descriptors break off or decoding does. -/
theorem record_outcome (unwanted : settings.emitUpdates = false)
    (lasting : settings.includeInvalidDates = false) (x : Visit) :
    (x.decoded settings).state.counters.outcomes + (x.isBroken settings).toNat +
        (x.isStopped settings).toNat =
      x.state.counters.outcomes + 1 := by
  unfold Visit.isBroken Visit.isStopped Visit.isAdmitted Visit.decoded
  rcases record_cases settings x.now x.info x.state x.record with
    ⟨hreceipt, h⟩ | ⟨hreceipt, -, h⟩ | ⟨-, wanted, -⟩ | ⟨hreceipt, h⟩
  · simp only [h, hreceipt, DecoderState.count, Counters.outcomes, Bool.false_and, Except.isOk,
      Except.toBool, Bool.not_true, Bool.toNat_false]
    omega
  · simp only [h, hreceipt, unwanted, DecoderState.count, Counters.outcomes, Bool.false_and,
      Except.isOk, Except.toBool, Bool.not_true, Bool.toNat_false]
    omega
  · rw [unwanted] at wanted
    cases wanted
  · rw [h]
    simp only [hreceipt, Bool.true_and]
    exact admitted_outcome lasting x.now x.info _ x.record false

/-! ### Records that are all come to -/

variable {now : Instant}

theorem visits_of_isOk {info : EventSection}
    (h : ∀ state r, ∃ p?, (record settings now info state r).result = .ok p?)
    (state : DecoderState) (rs : List EventRecord) :
    (visits settings now info state rs).map (·.record) = rs ∧
      (visits settings now info state rs).countP (·.isStopped settings) = 0 := by
  induction rs generalizing state with
  | nil => exact ⟨rfl, rfl⟩
  | cons r rest ih =>
    obtain ⟨p?, hp⟩ := h state r
    obtain ⟨hrecords, hstopped⟩ := ih (record settings now info state r).state
    have hgoes : Visit.isStopped settings ⟨now, info, state, r⟩ = false := by
      rw [Visit.isStopped, Visit.decoded, hp]
      rfl
    have hok : (record settings now info state r).result.isOk = true := by
      rw [hp]
      rfl
    unfold visits
    dsimp only
    rw [if_pos hok, List.map_cons, hrecords, List.countP_cons, hstopped, hgoes]
    exact ⟨rfl, rfl⟩

/-- If the calendar has the windows at all times and the codec refuses nothing, a decoder comes to
all records. -/
theorem visitsAll_of_windows (total : settings.codec.IsTotal) (low : -12 ≤ settings.timeOffset)
    (high : settings.timeOffset ≤ 12) {sections : List (Instant × EventSection)}
    (windows : ∀ s ∈ sections, settings.WindowInCalendar s.1) (state : DecoderState) :
    (visitsAll settings state sections).map (·.record) =
        sections.flatMap (·.2.events.records) ∧
      (visitsAll settings state sections).countP (·.isStopped settings) = 0 := by
  induction sections generalizing state with
  | nil => exact ⟨rfl, rfl⟩
  | cons s rest ih =>
    obtain ⟨now, info⟩ := s
    have window : settings.WindowInCalendar now := windows (now, info) List.mem_cons_self
    obtain ⟨hfirst, hgoes⟩ := visits_of_isOk (record_isOk total low high window info) state
      info.events.records
    obtain ⟨hrest, hgoes'⟩ := ih (fun s hs => windows s (List.mem_cons_of_mem _ hs))
      (decode settings now state info).state
    rw [visitsAll, List.map_append, List.countP_append, hfirst, hgoes, hrest, hgoes']
    exact ⟨rfl, rfl⟩

/-- Every record that a decoder comes to is a repetition, an update, or the first of an event. If
neither updates nor invalid dates are wanted, it is counted as a repetition, as an update, with
invalid dates, without a title or as a programme, and only once; it is not counted if its dates are
let pass and its descriptors break off, or if decoding does. Decoding breaks off at no record, and
the decoder comes to all, if the calendar has the windows whenever a section is decoded and the
codec of the default encoding refuses nothing. -/
theorem decodeAll_outcomes (settings : Settings) (sections : List (Instant × EventSection)) :
    let state := decodeAll settings .initial sections
    let c := state.counters
    let visits := visitsAll settings .initial sections
    c.repeats + c.updates + state.versions.size = visits.length ∧
      (settings.emitUpdates = false → settings.includeInvalidDates = false →
        c.repeats + c.updates + c.invalidDates + c.missingTitles + c.programmes +
            visits.countP (·.isBroken settings) + visits.countP (·.isStopped settings) =
          visits.length) ∧
      ∀ (registry : Text.Registry) (options : Options), options.check registry = .ok settings →
        settings.codec.IsTotal → (∀ s ∈ sections, settings.WindowInCalendar s.1) →
          visits.map (·.record) = sections.flatMap (·.2.events.records) ∧
            visits.countP (·.isStopped settings) = 0 := by
  intro state c visits
  refine ⟨?_, ?_, ?_⟩
  · -- here no record is counted apart
    have hmeasure := decodeAll_measure settings
      (fun s => s.counters.repeats + s.counters.updates + s.versions.size)
      (fun _ => false) (fun _ => false) (fun x => by simpa using record_known x) (fun _ => rfl)
      .initial sections
    simpa [state, c, visits, DecoderState.initial, Counters.zero, Versions.empty, Versions.size]
      using hmeasure
  · intro unwanted lasting
    have hmeasure := decodeAll_measure settings (fun s => s.counters.outcomes)
      (·.isBroken settings) (·.isStopped settings) (record_outcome unwanted lasting)
      (fun _ => rfl) .initial sections
    simpa [state, c, visits, DecoderState.initial, Counters.zero, Counters.outcomes] using hmeasure
  · intro registry options accepted total windows
    obtain ⟨low, high, -⟩ := Options.check_eq_ok accepted
    exact visitsAll_of_windows total low high windows .initial

def brokenNews : EventRecord := { newsRecord with eventId := 3, descriptors := [0x4D, 9] }

/-- A programme, a repetition, an event of the past and a record that breaks off are four. -/
theorem decodeAll_outcomes_four :
    let rs := [newsRecord, garbledRecord, oldRecord, brokenNews]
    let info : EventSection :=
      ⟨0x4E, 1, 3, true, 0, 0, 1, 0x233A, 0, 0x4E, rs.flatMap EventRecord.encode⟩
    let state := decodeAll .standard .initial [(noon, info)]
    let c := state.counters
    c.repeats + c.updates + state.versions.size = 4 ∧
      c.repeats + c.updates + c.invalidDates + c.missingTitles + c.programmes +
        (visitsAll .standard .initial [(noon, info)]).countP (·.isBroken .standard) = 4 := by
  intro rs info state c
  obtain ⟨hknown, hcounted, hall⟩ := decodeAll_outcomes .standard [(noon, info)]
  obtain ⟨hrecords, hstopped⟩ := hall .known .standard rfl Settings.isTotal_standard
    (List.forall_mem_singleton.mpr ⟨by decide, by decide, by decide⟩)
  have fits_brokenNews : brokenNews.Fits :=
    ⟨by decide, rfl, rfl, by decide, by decide, by decide⟩
  have fits : ∀ r ∈ rs, r.Fits :=
    List.forall_mem_cons.mpr ⟨fits_newsRecord, List.forall_mem_cons.mpr ⟨fits_garbledRecord,
      List.forall_mem_cons.mpr ⟨fits_oldRecord, List.forall_mem_singleton.mpr fits_brokenNews⟩⟩⟩
  have hwalk : info.events = ⟨rs, none⟩ := EventRecord.walkFrom_encode fits 0
  have hlength : (visitsAll .standard .initial [(noon, info)]).length = 4 := by
    rw [← List.length_map, hrecords, List.flatMap_singleton, hwalk]
    rfl
  rw [hlength] at hknown hcounted
  have hcounted := hcounted rfl rfl
  rw [hstopped] at hcounted
  exact ⟨hknown, by simpa using hcounted⟩

/-- A window that has its end outside the calendar: the calendar ends at the news, which are known
from then on and counted nowhere. -/
theorem decodeAll_unbounded :
    let options : Options := { Options.unbounded with includeInvalidDates := false }
    let settings : Settings := { Settings.unbounded with includeInvalidDates := false }
    options.check .known = .ok settings ∧ settings.emitUpdates = false ∧
      settings.includeInvalidDates = false ∧
      ∃ info : EventSection, EventSection.ofRaw loneNews = .ok info ∧
        let state := decodeAll settings .initial [(noon, info)]
        let visits := visitsAll settings .initial [(noon, info)]
        visits.map (·.record) = [newsRecord] ∧ state.versions.size = 1 ∧
          state.counters.outcomes + visits.countP (·.isBroken settings) = 0 := by
  intro options settings
  refine ⟨rfl, rfl, rfl, loneNewsInfo, rfl, ?_⟩
  rw [decodeAll, visitsAll, decode_of_events events_loneNewsInfo, events_loneNewsInfo]
  decide +kernel

end Decoder

end BroadcastGuide
