import BroadcastGuide.Proofs.Isolation

/-! How the counters of a run add up: for each section that the source brings, and for each
programme that is shown. -/

namespace BroadcastGuide

open Calendar (Instant)

structure Counters.Gains (n : Nat) (before after : Counters) : Prop where
  packets : after.packets = before.packets
  crcErrors : after.crcErrors = before.crcErrors
  filtered : after.filtered = before.filtered
  programmes : after.programmes = before.programmes + n

namespace Counters.Gains

variable {m n : Nat} {before between after : Counters}

theorem rfl : Gains 0 before before := ⟨.refl _, .refl _, .refl _, (Int.add_zero _).symm⟩

theorem trans (h : Gains m before between) (h' : Gains n between after) :
    Gains (m + n) before after where
  packets := h'.packets.trans h.packets
  crcErrors := h'.crcErrors.trans h.crcErrors
  filtered := h'.filtered.trans h.filtered
  programmes := by
    rw [h'.programmes, h.programmes]
    omega

end Counters.Gains

namespace Decoder

theorem fill_gains (settings : Settings) (state : DecoderState) (loop : Octets) (p : Programme) :
    Counters.Gains (fill settings state loop p).result.toOption.join.toList.length state.counters
      (fill settings state loop p).state.counters := by
  rcases fill_cases settings state loop p with
    ⟨e, -, h⟩ | ⟨read, -, ⟨fault, -, h⟩ | ⟨-, -, h⟩ | ⟨-, -, h⟩⟩
  · rw [h]
    exact ⟨rfl, rfl, rfl, (Int.add_zero _).symm⟩
  · rw [h]
    exact ⟨rfl, rfl, rfl, (Int.add_zero _).symm⟩
  · rw [h]
    exact ⟨rfl, rfl, rfl, (Int.add_zero _).symm⟩
  · rw [h]
    exact ⟨rfl, rfl, rfl, rfl⟩

theorem admitted_gains (settings : Settings) (now : Instant) (info : EventSection)
    (state : DecoderState) (r : EventRecord) (isUpdate : Bool) :
    Counters.Gains (admitted settings now info state r isUpdate).result.toOption.join.toList.length
      state.counters (admitted settings now info state r isUpdate).state.counters := by
  have hinvalid : Counters.Gains 0 state.counters (undated state).counters :=
    ⟨rfl, rfl, rfl, (Int.add_zero _).symm⟩
  rcases admitted_cases settings now info state r isUpdate with
    ⟨-, h | h⟩ | ⟨-, start, stop, inside, -, -, -, h⟩
  · rw [h]
    exact .rfl
  · rw [h]
    exact hinvalid
  · have hfill := fill_gains settings (if inside then state else undated state) r.descriptors
      (outline info r start stop isUpdate)
    rw [h]
    cases inside with
    | true => exact hfill
    | false =>
      have htrans := hinvalid.trans hfill
      rwa [Nat.zero_add] at htrans

theorem record_gains (settings : Settings) (now : Instant) (info : EventSection)
    (state : DecoderState) (r : EventRecord) :
    Counters.Gains (record settings now info state r).result.toOption.join.toList.length
      state.counters (record settings now info state r).state.counters := by
  rcases record_cases settings now info state r with
    ⟨-, h⟩ | ⟨-, -, h⟩ | ⟨-, -, h⟩ | ⟨-, h⟩
  · rw [h]
    exact ⟨rfl, rfl, rfl, (Int.add_zero _).symm⟩
  · rw [h]
    exact ⟨rfl, rfl, rfl, (Int.add_zero _).symm⟩
  · have hadmitted := admitted_gains settings now info
      (DecoderState.count ⟨state.counters, (state.versions.receive settings.versionPolicy
        (keyOf info r) info.version).2⟩ fun c => { c with updates := c.updates + 1 }) r true
    rw [h]
    exact ⟨hadmitted.packets, hadmitted.crcErrors, hadmitted.filtered, hadmitted.programmes⟩
  · rw [h]
    exact admitted_gains settings now info ⟨state.counters, _⟩ r false

theorem records_gains (settings : Settings) (now : Instant) (info : EventSection)
    (state : DecoderState) (rs : List EventRecord) :
    ∃ n, Counters.Gains n state.counters (records settings now info state rs).state.counters ∧
      ∀ ps, (records settings now info state rs).result = .ok ps → n = ps.length := by
  induction rs generalizing state with
  | nil =>
    refine ⟨0, .rfl, ?_⟩
    intro ps h
    cases h
    rfl
  | cons r rest ih =>
    have hfirst := record_gains settings now info state r
    rcases records_cases settings now info state r rest with
      ⟨e, -, hall⟩ | ⟨p?, hp, hstate, hresult⟩
    · rw [hall]
      exact ⟨_, hfirst, fun ps h => by cases h⟩
    · obtain ⟨n, hrest, hlength⟩ := ih (record settings now info state r).state
      rw [hp] at hfirst
      refine ⟨p?.toList.length + n, ?_, ?_⟩
      · rw [hstate]
        exact hfirst.trans hrest
      · intro ps h
        obtain ⟨later, hlater, rfl⟩ := (hresult ps).mp h
        rw [List.length_append, hlength later hlater]

theorem decode_gains (settings : Settings) (now : Instant) (state : DecoderState)
    (info : EventSection) :
    ∃ n, Counters.Gains n state.counters (decode settings now state info).state.counters ∧
      ∀ ps, (decode settings now state info).result = .ok ps → n = ps.length := by
  obtain ⟨n, hgains, hlength⟩ :=
    records_gains settings now info state info.events.records
  refine ⟨n, ?_, ?_⟩
  · rcases state_decode settings now state info with h | h
    · rw [h]
      exact hgains
    · rw [h]
      exact ⟨hgains.packets, hgains.crcErrors, hgains.filtered, hgains.programmes⟩
  · intro ps h
    exact hlength ps (result_decode.symm.trans h)

end Decoder

namespace RawSection

def isDecoded (settings : Settings) (s : RawSection) : Bool :=
  settings.acceptsTable s.tableId.toNat && s.isIntact && Table.isEventInformation s.tableId.toNat

end RawSection

/-- What the counters tell of the sections that a run has come by, and how often the source has been
told of an intact one. -/
structure Accounts (settings : Settings) (sections : List RawSection) (c : Counters)
    (touches : Nat) : Prop where
  packets : c.packets = sections.length
  decoded : c.packets = c.filtered + c.crcErrors + sections.countP (·.isDecoded settings)
  touches : touches = c.packets - c.crcErrors -
    sections.countP fun s => !settings.acceptsTable s.tableId.toNat

/-- One more section: it is counted as filtered or broken or it is decoded, and the source is told
of it if it is neither rejected nor broken. -/
theorem Accounts.concat {settings : Settings} {sections : List RawSection} {c c' : Counters}
    {touches touches' : Nat} {s : RawSection} (h : Accounts settings sections c touches)
    (packets : c'.packets = c.packets + 1)
    (decoded : c'.filtered + c'.crcErrors + (s.isDecoded settings).toNat =
      c.filtered + c.crcErrors + 1)
    (touched : touches' + c'.crcErrors + (!settings.acceptsTable s.tableId.toNat).toNat =
      touches + c.crcErrors + 1) :
    Accounts settings (sections ++ [s]) c' touches' := by
  have hcount (p : RawSection → Bool) :
      (sections ++ [s]).countP p = sections.countP p + (p s).toNat := by
    rw [List.countP_append, List.countP_singleton]
    cases p s <;> rfl
  obtain ⟨hpackets, hdecoded, htouches⟩ := h
  refine ⟨?_, ?_, ?_⟩
  · rw [packets, hpackets, List.length_append, List.length_singleton]
    rfl
  · rw [hcount]
    omega
  · rw [hcount]
    omega

namespace Grabber

variable {settings : Settings} {now : Instant}

theorem decodeRaw_cases (settings : Settings) (now : Instant) (state : GrabState)
    (s : RawSection) :
    Table.isEventInformation s.tableId.toNat = false ∧
        decodeRaw settings now state s =
          (state.count fun c => { c with filtered := c.filtered + 1 }, .ok []) ∨
      Table.isEventInformation s.tableId.toNat = true ∧ ∃ next result n,
        decodeRaw settings now state s = (next, result) ∧ next.touches = state.touches ∧
          Counters.Gains n state.decoder.counters next.decoder.counters ∧
          ∀ ps, result = .ok ps → n = ps.length := by
  cases carries : Table.isEventInformation s.tableId.toNat with
  | false =>
    refine Or.inl ⟨rfl, ?_⟩
    simp only [decodeRaw, carries, Bool.not_false, if_true]
  | true =>
    refine Or.inr ⟨rfl, ?_⟩
    cases hinfo : EventSection.ofRaw s with
    | error e =>
      refine ⟨state.count fun c => { c with decodeErrors := c.decodeErrors + 1 }, .ok [], 0, ?_,
        rfl, ⟨rfl, rfl, rfl, (Int.add_zero _).symm⟩, ?_⟩
      · simp only [decodeRaw, carries, hinfo, Bool.not_true, Bool.false_eq_true, if_false]
      · intro ps h
        cases h
        rfl
    | ok info =>
      obtain ⟨n, hgains, hlength⟩ := Decoder.decode_gains settings now state.decoder info
      exact ⟨_, _, n, decodeRaw_of_ofRaw hinfo settings now state, rfl, hgains, hlength⟩

/-- A section keeps the accounts. The programmes it counts are shown before its progress, if it is
not what stops the run. -/
theorem handle_accounts {state : GrabState} {sections : List RawSection}
    (now : Instant) (h : Accounts settings sections state.decoder.counters state.touches)
    (s : RawSection) :
    let handled := handle settings now state s
    let counters := handled.state.decoder.counters
    Accounts settings (sections ++ [s]) counters handled.state.touches ∧
      ∃ n : Nat, counters.programmes = state.decoder.counters.programmes + n ∧
        (handled.fault = none → ∃ ps : List Programme, n = ps.length ∧
          handled.events = ps.map .programme ++ [.progress counters handled.state.touches]) := by
  cases accepted : settings.acceptsTable s.tableId.toNat with
  | false =>
    rw [handle_of_rejected accepted]
    refine ⟨h.concat rfl ?_ ?_, 0, (Int.add_zero _).symm, fun _ => ⟨[], rfl, rfl⟩⟩
    · simp only [seen, GrabState.count, DecoderState.count, RawSection.isDecoded, accepted,
        Bool.false_and, Bool.toNat_false]
      omega
    · simp only [seen, GrabState.count, DecoderState.count, accepted, Bool.not_false,
        Bool.toNat_true]
      omega
  | true =>
    cases intact : s.isIntact with
    | false =>
      rw [handle_of_broken accepted intact]
      refine ⟨h.concat rfl ?_ ?_, 0, (Int.add_zero _).symm, fun _ => ⟨[], rfl, rfl⟩⟩
      · simp only [seen, GrabState.count, DecoderState.count, RawSection.isDecoded, intact,
          Bool.and_false, Bool.false_and, Bool.toNat_false]
        omega
      · simp only [seen, GrabState.count, DecoderState.count, accepted, Bool.not_true,
          Bool.toNat_false]
        omega
    | true =>
      rcases decodeRaw_cases settings now { seen state with touches := state.touches + 1 } s with
        ⟨other, hd⟩ | ⟨carries, next, result, n, hd, hnext, hgains, hlength⟩
      · rw [handle_of_intact accepted intact hd]
        refine ⟨h.concat rfl ?_ ?_, 0, (Int.add_zero _).symm, fun _ => ⟨[], rfl, rfl⟩⟩
        · simp only [seen, GrabState.count, DecoderState.count, RawSection.isDecoded, other,
            Bool.and_false, Bool.toNat_false]
          omega
        · simp only [seen, GrabState.count, DecoderState.count, accepted, Bool.not_true,
            Bool.toNat_false]
          omega
      · -- a section that stops the run has been counted as well
        have hstate : (handle settings now state s).state = next := by
          cases result with
          | error e => rw [handle_of_stopped accepted intact hd]
          | ok ps => rw [handle_of_intact accepted intact hd]
        have hbooks : Accounts settings (sections ++ [s]) next.decoder.counters next.touches := by
          refine h.concat hgains.packets ?_ ?_
          · rw [hgains.filtered, hgains.crcErrors, RawSection.isDecoded, accepted, intact, carries]
            rfl
          · rw [hgains.crcErrors, hnext, accepted]
            simp only [seen, GrabState.count, DecoderState.count, Bool.not_true, Bool.toNat_false]
            omega
        refine ⟨hstate ▸ hbooks, n, hstate ▸ hgains.programmes, ?_⟩
        intro hfault
        cases result with
        | error e =>
          rw [handle_of_stopped accepted intact hd] at hfault
          cases hfault
        | ok ps =>
          rw [handle_of_intact accepted intact hd]
          exact ⟨ps, hlength ps rfl, rfl⟩

def reports (events : List GrabEvent) : Nat :=
  events.countP fun | .progress _ _ => true | .programme _ => false

theorem reports_append (events later : List GrabEvent) :
    reports (events ++ later) = reports events + reports later :=
  List.countP_append

theorem reports_programmes (ps : List Programme) : reports (ps.map .programme) = 0 := by
  rw [reports, List.countP_map]
  exact List.countP_eq_zero.mpr fun p _ => Bool.false_ne_true

theorem programmesOf_programmes (ps : List Programme) : programmesOf (ps.map .programme) = ps := by
  rw [programmesOf, List.filterMap_map]
  exact List.filterMap_some

theorem split_report {ps : List Programme} {c c' : Counters} {touches touches' : Nat}
    {later before after : List GrabEvent}
    (h : ps.map .programme ++ [.progress c touches] ++ later =
      before ++ .progress c' touches' :: after) :
    before = ps.map .programme ∧ c' = c ∧ touches' = touches ∨
      ∃ between, before = ps.map .programme ++ [.progress c touches] ++ between ∧
        later = between ++ .progress c' touches' :: after := by
  induction ps generalizing before with
  | nil =>
    cases before with
    | nil =>
      cases h
      exact Or.inl ⟨rfl, rfl, rfl⟩
    | cons e between =>
      cases h
      exact Or.inr ⟨between, rfl, rfl⟩
  | cons p rest ih =>
    cases before with
    | nil => cases h
    | cons e before =>
      obtain ⟨rfl, htail⟩ := List.cons.inj h
      rcases ih htail with ⟨rfl, hc, htouches⟩ | ⟨between, rfl, hlater⟩
      · exact Or.inl ⟨rfl, hc, htouches⟩
      · exact Or.inr ⟨between, rfl, hlater⟩

theorem reports_section (ps : List Programme) (c : Counters) (touches : Nat) :
    reports (ps.map .programme ++ [.progress c touches]) = 1 := by
  rw [reports_append, reports_programmes]
  rfl

theorem handleSections_reports {state : GrabState} {past : List RawSection}
    (h : Accounts settings past state.decoder.counters state.touches) {sections : List RawSection}
    {before after : List GrabEvent} {c : Counters} {touches : Nat}
    (hsplit : (handleSections settings now state sections).events =
      before ++ .progress c touches :: after) :
    Accounts settings (past ++ sections.take (reports before + 1)) c touches ∧
      reports before < sections.length ∧
      c.programmes = state.decoder.counters.programmes + (programmesOf before).length := by
  induction sections generalizing state past before with
  | nil => simp [handleSections] at hsplit
  | cons s rest ih =>
    obtain ⟨haccounts, n, hn, hshown⟩ := handle_accounts now h s
    cases hfault : (handle settings now state s).fault with
    | some fault =>
      obtain ⟨-, hevents⟩ := handle_of_fault hfault
      simp [handleSections, hfault, hevents] at hsplit
    | none =>
      obtain ⟨ps, rfl, hevents⟩ := hshown hfault
      rw [handleSections_cons hfault] at hsplit
      dsimp only at hsplit
      rw [hevents] at hsplit
      rcases split_report hsplit with ⟨rfl, rfl, rfl⟩ | ⟨between, rfl, hlater⟩
      · rw [reports_programmes, programmesOf_programmes]
        exact ⟨haccounts, Nat.succ_pos rest.length, hn⟩
      · obtain ⟨hbetween, hlt, hprogrammes⟩ := ih haccounts hlater
        rw [reports_append, reports_section, programmesOf_append, programmesOf_section,
          List.length_append]
        refine ⟨?_, by rw [List.length_cons]; omega, by omega⟩
        rw [Nat.add_comm 1, List.take_succ_cons]
        simpa using hbetween

/-- Sections that are all handled keep the accounts to the end. -/
theorem handleSections_end {state : GrabState} {past : List RawSection}
    (h : Accounts settings past state.decoder.counters state.touches) {sections : List RawSection}
    (hfault : (handleSections settings now state sections).fault = none) :
    let handled := handleSections settings now state sections
    Accounts settings (past ++ sections) handled.state.decoder.counters handled.state.touches ∧
      handled.state.decoder.counters.programmes =
        state.decoder.counters.programmes + (programmesOf handled.events).length := by
  induction sections generalizing state past with
  | nil => exact ⟨by simpa [handleSections] using h, (Int.add_zero _).symm⟩
  | cons s rest ih =>
    obtain ⟨haccounts, n, hn, hshown⟩ := handle_accounts now h s
    cases hfirst : (handle settings now state s).fault with
    | some fault => simp [handleSections, hfirst] at hfault
    | none =>
      obtain ⟨ps, rfl, hevents⟩ := hshown hfirst
      rw [handleSections_cons hfirst] at hfault ⊢
      obtain ⟨hrest, hprogrammes⟩ := ih haccounts hfault
      dsimp only
      rw [hevents, programmesOf_append, programmesOf_section, List.length_append]
      exact ⟨by simpa using hrest, by omega⟩

/-- A section that stops a run is not reported. It keeps the accounts but for the programmes, of
which it may have counted some that are not shown. -/
theorem handleSections_broken {state : GrabState} {past : List RawSection}
    (h : Accounts settings past state.decoder.counters state.touches) {sections : List RawSection}
    (hfault : (handleSections settings now state sections).fault ≠ none) :
    let handled := handleSections settings now state sections
    Accounts settings (past ++ sections.take (reports handled.events + 1))
        handled.state.decoder.counters handled.state.touches ∧
      state.decoder.counters.programmes + (programmesOf handled.events).length ≤
        handled.state.decoder.counters.programmes := by
  induction sections generalizing state past with
  | nil => exact absurd rfl hfault
  | cons s rest ih =>
    obtain ⟨haccounts, n, hn, hshown⟩ := handle_accounts now h s
    cases hfirst : (handle settings now state s).fault with
    | some fault =>
      obtain ⟨-, hevents⟩ := handle_of_fault hfirst
      simp only [handleSections, hfirst, hevents]
      refine ⟨haccounts, ?_⟩
      rw [hn, programmesOf, List.filterMap_nil, List.length_nil]
      omega
    | none =>
      obtain ⟨ps, rfl, hevents⟩ := hshown hfirst
      rw [handleSections_cons hfirst] at hfault ⊢
      obtain ⟨hrest, hprogrammes⟩ := ih haccounts hfault
      dsimp only
      rw [hevents, reports_append, reports_section, programmesOf_append, programmesOf_section,
        List.length_append, Nat.add_comm 1, List.take_succ_cons]
      exact ⟨by simpa using hrest, by omega⟩

theorem handleSections_fault (settings : Settings) (now : Instant) (state : GrabState)
    (sections : List RawSection) :
    (handleSections settings now state sections).fault = none ∨
      ∃ e, (handleSections settings now state sections).fault = some (.decoder e) := by
  induction sections generalizing state with
  | nil => exact Or.inl rfl
  | cons s rest ih =>
    cases hfirst : (handle settings now state s).fault with
    | some fault =>
      obtain ⟨⟨e, rfl⟩, -⟩ := handle_of_fault hfirst
      exact Or.inr ⟨e, by simp only [handleSections, hfirst]⟩
    | none =>
      rw [handleSections_cons hfirst]
      exact ih _

theorem exists_decoder_fault {state : GrabState} {sections : List RawSection}
    (ending : Reader.Ending) :
    (∃ e, (handleSections settings now state sections).fault.or ending.fault? =
        some (.decoder e)) ↔ (handleSections settings now state sections).fault ≠ none := by
  rcases handleSections_fault settings now state sections with h | ⟨e, h⟩
  · rw [h]
    cases ending <;> simp [Reader.Ending.fault?]
  · simp [h]

end Grabber

/-- The counters of a run add up at each report and at its end, whatever the source brings: each
section is rejected, broken or decoded, the source is told of all that are neither rejected nor
broken, and all programmes counted have been shown. Only if decoding breaks off in a section are
those counted in it not shown. -/
theorem run_accounts {σ : Type} [ByteSource σ] (settings : Settings) (now : Instant) (source : σ) :
    let run := Grabber.run settings now source
    let counters := run.state.decoder.counters
    let sections := (readSections source settings.bufferCapacity).sightings.map (·.found)
    (∀ before c touches after, run.events = before ++ .progress c touches :: after →
      c.packets = ((Grabber.reports before + 1 : Nat) : Int) ∧
        Accounts settings (sections.take (Grabber.reports before + 1)) c touches ∧
        c.programmes = (Grabber.programmesOf before).length) ∧
    ((∀ e, run.fault ≠ some (.decoder e)) →
      Accounts settings sections counters run.state.touches ∧
        counters.programmes = run.programmes.length) ∧
    ((∃ e, run.fault = some (.decoder e)) →
      Accounts settings (sections.take (Grabber.reports run.events + 1)) counters
          run.state.touches ∧
        run.programmes.length ≤ counters.programmes) := by
  intro run counters sections
  obtain ⟨hevents, hstate, hfault⟩ := Grabber.run_handled settings now source
  have hstart : Accounts settings [] GrabState.initial.decoder.counters GrabState.initial.touches :=
    ⟨rfl, rfl, rfl⟩
  have hzero : GrabState.initial.decoder.counters.programmes = 0 := rfl
  refine ⟨?_, ?_, ?_⟩
  · intro before c touches after hsplit
    obtain ⟨haccounts, hlt, hprogrammes⟩ :=
      Grabber.handleSections_reports hstart (hevents.symm.trans hsplit)
    rw [List.nil_append] at haccounts
    rw [hzero, Int.zero_add] at hprogrammes
    refine ⟨?_, haccounts, hprogrammes⟩
    rw [haccounts.packets, List.length_take, Nat.min_eq_left hlt]
  · intro hends
    rw [hfault, ← not_exists, Grabber.exists_decoder_fault, Decidable.not_not] at hends
    obtain ⟨haccounts, hprogrammes⟩ := Grabber.handleSections_end hstart hends
    rw [← hstate, List.nil_append] at haccounts
    rw [← hstate, ← hevents, hzero, Int.zero_add] at hprogrammes
    exact ⟨haccounts, hprogrammes⟩
  · intro hbroken
    rw [hfault, Grabber.exists_decoder_fault] at hbroken
    obtain ⟨haccounts, hprogrammes⟩ := Grabber.handleSections_broken hstart hbroken
    rw [← hstate, ← hevents, List.nil_append] at haccounts
    rw [← hstate, ← hevents, hzero, Int.zero_add] at hprogrammes
    exact ⟨haccounts, hprogrammes⟩

def oldThenNews : RawSection :=
  ⟨headerBytes ++ (oldRecord.encode ++ newsRecord.encode) ++ [234, 81, 58, 233], by decide +kernel,
    by decide⟩

/-- A window that has its end outside the calendar: the news stop the run, and the programme counted
before them is not shown. -/
theorem run_unbounded :
    Options.unbounded.check .known = .ok .unbounded ∧
      let run := Grabber.run .unbounded noon (Delivery.mk oldThenNews.bytes [])
      run.fault = some (.decoder .outOfCalendar) ∧ run.programmes = [] ∧
        run.state.decoder.counters.programmes = 1 := by
  let info : EventSection :=
    ⟨0x4E, 1, 3, true, 0, 0, 1, 0x233A, 0, 0x4E, oldRecord.encode ++ newsRecord.encode⟩
  let state : GrabState := { Grabber.seen .initial with touches := 1 }
  let decoded := Decoder.records .unbounded noon info state.decoder [oldRecord, newsRecord]
  have hresult : decoded.result = .error .outOfCalendar := by decide +kernel
  have hcounted : decoded.state.counters.programmes = 1 := by decide +kernel
  have hd : Grabber.decodeRaw .unbounded noon state oldThenNews =
      ({ state with decoder := decoded.state }, .error .outOfCalendar) := by
    have hinfo : EventSection.ofRaw oldThenNews = .ok info := rfl
    have hdecode : Decoder.decode .unbounded noon state.decoder info = decoded :=
      Decoder.decode_of_events (EventRecord.walkFrom_pair fits_oldRecord fits_newsRecord 0)
    rw [Grabber.decodeRaw_of_ofRaw hinfo, hdecode, hresult]
  have hhandle : Grabber.handle .unbounded noon .initial oldThenNews =
      ⟨{ state with decoder := decoded.state }, [], some (.decoder .outOfCalendar)⟩ :=
    Grabber.handle_of_stopped (by decide) (by decide +kernel) hd
  have start : ∀ s ∈ [oldThenNews], isFiller s.tableId = false := by decide
  obtain ⟨hevents, hstate, hfault⟩ := Grabber.run_sections .unbounded noon (by decide) start
    (by decide) (Delivery.delivers ⟨oldThenNews.bytes, []⟩ (by decide))
  simp only [Grabber.handleSections, hhandle] at hevents hstate hfault
  refine ⟨rfl, hfault, ?_, ?_⟩
  · rw [Grab.programmes, hevents]
    rfl
  · rw [hstate]
    exact hcounted

end BroadcastGuide
