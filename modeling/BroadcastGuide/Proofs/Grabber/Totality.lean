import BroadcastGuide.Proofs.Isolation

/-! How a run ends. Its programmes are those of the sections of events that it comes by, decoded in
turn. It breaks off at a text that the codec of the default encoding refuses, or else it ends with
its source or at a section that is too large. -/

namespace BroadcastGuide

open Calendar (Instant)

/-- The programmes of sections of events that are decoded in turn, and why decoding breaks off, if
it does. A section in which it does gives no programme. -/
def Decoder.inTurn (settings : Settings) (now : Instant) (state : DecoderState) :
    List EventSection → List Programme × Option DecoderFault
  | [] => ([], none)
  | info :: rest =>
    let decoded := decode settings now state info
    match decoded.result with
    | .error e => ([], some e)
    | .ok ps =>
      let (later, fault) := inTurn settings now decoded.state rest
      (ps ++ later, fault)

namespace Decoder

variable {settings : Settings} {now : Int}

/-- Where the calendar has all times, decoding breaks off only at a record of which the codec
refuses a text. -/
theorem inTurn_refuses (low : -12 ≤ settings.timeOffset) (high : settings.timeOffset ≤ 12)
    (window : settings.WindowInCalendar now) {state : DecoderState}
    {sections : List EventSection} {e : DecoderFault}
    (h : (inTurn settings now state sections).2 = some e) :
    ∃ fault, e = .refused fault ∧
      ∃ info ∈ sections, ∃ r ∈ info.events.records, Refuses settings r fault := by
  induction sections generalizing state with
  | nil => cases h
  | cons info rest ih =>
    unfold inTurn at h
    cases hresult : (decode settings now state info).result with
    | error first =>
      simp only [hresult, Option.some.injEq] at h
      obtain ⟨r, hr, fault, rfl, hrefused⟩ := decode_refuses low high window hresult
      exact ⟨fault, h.symm, info, List.mem_cons_self, r, hr, hrefused⟩
    | ok ps =>
      simp only [hresult] at h
      obtain ⟨fault, he, other, hother, hrefused⟩ := ih h
      exact ⟨fault, he, other, List.mem_cons_of_mem info hother, hrefused⟩

end Decoder

namespace Grabber

variable {settings : Settings} {now : Instant}

/-- What a run shows of sections is what their events give that are decoded in turn. -/
theorem handleSections_inTurn (settings : Settings) (now : Instant) (state : GrabState)
    (s : DecoderState) (same : state.decoder.versions = s.versions) (sections : List RawSection) :
    let handled := handleSections settings now state sections
    let decoded := Decoder.inTurn settings now s (sections.filterMap settings.events?)
    programmesOf handled.events = decoded.1 ∧ handled.fault = decoded.2.map .decoder := by
  -- the decoder of the run has counted sections on the way, which has no say in what it gives
  induction sections generalizing state s with
  | nil => exact ⟨rfl, rfl⟩
  | cons raw rest ih =>
    cases hinfo : settings.events? raw with
    | none =>
      obtain ⟨next, hfirst, hversions⟩ := handle_of_none now state hinfo
      obtain ⟨hprogrammes, hfault⟩ := ih next s (hversions.trans same)
      rw [List.filterMap_cons_none hinfo]
      simp only [handleSections, hfirst]
      exact ⟨hprogrammes, hfault⟩
    | some info =>
      have hfirst := handle_of_some now state hinfo
      obtain ⟨hresult, hversions⟩ :=
        Decoder.decode_congr settings now info (s := (seen state).decoder) (t := s) same
      rw [List.filterMap_cons_some hinfo]
      unfold Decoder.inTurn
      dsimp only at hfirst ⊢
      cases hdecoded : (Decoder.decode settings now s info).result with
      | error e =>
        rw [hresult, hdecoded] at hfirst
        simp only [handleSections, hfirst]
        exact ⟨rfl, rfl⟩
      | ok ps =>
        rw [hresult, hdecoded] at hfirst
        simp only [handleSections, hfirst]
        obtain ⟨hprogrammes, hfault⟩ := ih ⟨_, state.touches + 1⟩ _ hversions
        exact ⟨by rw [programmesOf_append, programmesOf_section, hprogrammes], hfault⟩

/-- A run over a source gives what the sections of events give that a scan of its bytes finds, and
ends as the scan does if decoding does not break off. -/
theorem run_inTurn {σ : Type} [ByteSource σ] {source : σ} {data : Octets} (settings : Settings)
    (now : Instant) (h : Delivers source data) (room : 3 ≤ settings.bufferCapacity) :
    let scan := Scan.ofBytes settings.bufferCapacity data
    let decoded := Decoder.inTurn settings now .initial
      (scan.sections.filterMap fun s => settings.events? s.found)
    (run settings now source).programmes = decoded.1 ∧
      (run settings now source).fault = (decoded.2.map .decoder).or scan.ending.fault? := by
  intro scan decoded
  obtain ⟨hevents, -, hfault⟩ := run_eq settings now h room
  obtain ⟨hprogrammes, hstopped⟩ := handleSections_inTurn settings now .initial .initial rfl
    (scan.sections.map (·.found))
  rw [List.filterMap_map] at hprogrammes hstopped
  refine ⟨(congrArg programmesOf hevents).trans hprogrammes, ?_⟩
  rw [hfault, hstopped]
  rfl

end Grabber

namespace Scan

/-- What makes a scan stop early is a declared size above the capacity. -/
theorem tooLarge_of_ending {capacity dropped : Nat} {bytes : Octets} {e : SectionTooLarge}
    (h : (scanFrom capacity dropped bytes).ending = .tooLarge e) :
    e.capacity = capacity ∧ capacity < e.size ∧ 7 ≤ e.size ∧ e.size ≤ 4098 := by
  fun_induction scanFrom capacity dropped bytes with
  | case1 => cases h
  | case2 _ _ _ _ ih => exact ih h
  | case3 => cases h
  | case4 _ _ _ _ _ _ ih => exact ih h
  | case5 dropped b rest _ _ short size large =>
    cases h
    have := declaredLength_lt (b :: rest)
    refine ⟨rfl, large, ?_, ?_⟩ <;> dsimp only [size] <;> omega
  | case6 => cases h
  | case7 _ _ _ _ _ _ _ _ _ _ _ ih => exact ih h

end Scan

/-- A run gives the programmes of the sections of events that a scan of the bytes finds, decoded in
turn. It breaks off at a section of which the codec of the default encoding refuses a text, and not
at all if the codec refuses nothing. Else it ends as the scan ends: with its source, or at a header
whose declared size is above the capacity, which with room for the greatest size it never does. -/
theorem run_ends {registry : Text.Registry} {options : Options} {settings : Settings} {now : Int}
    {σ : Type} [ByteSource σ] {source : σ} {data : Octets}
    (accepted : options.check registry = .ok settings) (window : settings.WindowInCalendar now)
    (h : Delivers source data) :
    let scan := Scan.ofBytes settings.bufferCapacity data
    let sections := scan.sections.filterMap fun s => settings.events? s.found
    let decoded := Decoder.inTurn settings now .initial sections
    let run := Grabber.run settings now source
    run.programmes = decoded.1 ∧
      ((∃ fault, decoded.2 = some (.refused fault) ∧
          run.fault = some (.decoder (.refused fault)) ∧
          ∃ info ∈ sections, ∃ r ∈ info.events.records, Decoder.Refuses settings r fault) ∨
        decoded.2 = none ∧
          (scan.ending = .exhausted ∧ run.fault = none ∨
            ∃ e, scan.ending = .tooLarge e ∧ run.fault = some (.tooLarge e) ∧
              e.capacity = settings.bufferCapacity ∧ settings.bufferCapacity < e.size ∧
              7 ≤ e.size)) ∧
      (settings.codec.IsTotal → decoded.2 = none) ∧
      (4098 ≤ settings.bufferCapacity → ∀ e, run.fault ≠ some (.tooLarge e)) := by
  intro scan sections decoded run
  obtain ⟨low, high, hcapacity⟩ := Options.check_eq_ok accepted
  obtain ⟨hprogrammes, hfault⟩ := Grabber.run_inTurn settings now h (by omega)
  have hrun : run.fault = (decoded.2.map .decoder).or scan.ending.fault? := hfault
  refine ⟨hprogrammes, ?_⟩
  cases hdecoded : decoded.2 with
  | some e =>
    obtain ⟨fault, rfl, hrefused⟩ := Decoder.inTurn_refuses low high window hdecoded
    rw [hrun, hdecoded]
    refine ⟨Or.inl ⟨fault, rfl, rfl, hrefused⟩, fun total => ?_, fun _ e => nofun⟩
    obtain ⟨info, -, r, -, hr⟩ := hrefused
    exact absurd hr (Decoder.not_refuses total r fault)
  | none =>
    rw [hrun, hdecoded]
    cases hending : scan.ending with
    | exhausted => exact ⟨Or.inr ⟨rfl, Or.inl ⟨rfl, rfl⟩⟩, fun _ => rfl, fun _ e => nofun⟩
    | tooLarge e =>
      obtain ⟨hcapacity, hlarge, hsize, hmost⟩ := Scan.tooLarge_of_ending hending
      refine ⟨Or.inr ⟨rfl, Or.inr ⟨e, rfl, rfl, hcapacity, hlarge, hsize⟩⟩, fun _ => rfl,
        fun hroom => ?_⟩
      omega

def loneNews : RawSection :=
  ⟨[0x4E, 0xF0, 38, 0, 1, 0xC7, 0, 0, 0, 1, 0x23, 0x3A, 0, 0x4E] ++ newsRecord.encode ++
    [152, 9, 14, 93], by decide +kernel, by decide⟩

def loneNewsInfo : EventSection :=
  ⟨0x4E, 1, 3, true, 0, 0, 1, 0x233A, 0, 0x4E, [newsRecord].flatMap EventRecord.encode⟩

theorem events_loneNewsInfo : loneNewsInfo.events = ⟨[newsRecord], none⟩ :=
  EventRecord.walkFrom_encode (List.forall_mem_singleton.mpr fits_newsRecord) 0

theorem events?_loneNews {settings : Settings} (h : settings.tableMask = 0) :
    [(⟨loneNews, 0⟩ : Found)].filterMap (fun s => settings.events? s.found) = [loneNewsInfo] := by
  have haccepts : settings.acceptsTable loneNews.tableId.toNat = true := by
    simp [Settings.acceptsTable, h]
  have hinfo : settings.events? loneNews = some loneNewsInfo :=
    Grabber.events?_eq_some.mpr ⟨haccepts, by decide +kernel, rfl⟩
  simp [hinfo]

/-- The news, and a header of a section that is too large. -/
theorem run_ends_loneNews :
    Options.standard.check .known = .ok .standard ∧ Settings.standard.WindowInCalendar noon ∧
      let data := loneNews.bytes ++ [0x4E, 0xFF, 0xFF, 0]
      Delivers (Delivery.mk data [3, 1, 4]) data ∧
        let run := Grabber.run .standard noon (Delivery.mk data [3, 1, 4])
        run.programmes.map (·.title?) = [some "News"] ∧
          run.fault = some (.tooLarge ⟨4098, 4096⟩) := by
  have hcheck : Options.standard.check .known = .ok .standard := rfl
  have hwindow : Settings.standard.WindowInCalendar noon := ⟨by decide, by decide, by decide⟩
  refine ⟨hcheck, hwindow, ?_⟩
  intro data
  have hd := Delivery.delivers ⟨data, [3, 1, 4]⟩ (by decide)
  obtain ⟨hprogrammes, hends, htotal, -⟩ := run_ends hcheck hwindow hd
  have hlarge : Scan.scanFrom 4096 0 [0x4E, 0xFF, 0xFF, 0] = ⟨[], .tooLarge ⟨4098, 4096⟩, 0⟩ :=
    Scan.scanFrom_tooLarge (by decide) (by decide) (by decide) (by decide)
  have hscan : Scan.ofBytes Settings.standard.bufferCapacity data =
      ⟨[⟨loneNews, 0⟩], .tooLarge ⟨4098, 4096⟩, 0⟩ := by
    have hsection := @Scan.scanFrom_section 4096 0 loneNews (by decide) (by decide)
      [0x4E, 0xFF, 0xFF, 0]
    rwa [hlarge] at hsection
  refine ⟨hd, ?_, ?_⟩
  · rw [hprogrammes, hscan, events?_loneNews rfl, Decoder.inTurn,
      Decoder.decode_of_events events_loneNewsInfo]
    decide +kernel
  · rcases hends with ⟨fault, hdecoded, -⟩ | ⟨-, ⟨hending, -⟩ | ⟨e, hending, hfault, -⟩⟩
    · rw [htotal Settings.isTotal_standard] at hdecoded
      cases hdecoded
    · cases hending.symm.trans (congrArg Scan.ending hscan)
    · cases hending.symm.trans (congrArg Scan.ending hscan)
      exact hfault

/-- Options with a default encoding that knows no replacement character. -/
def Options.refusing : Options := { Options.standard with defaultEncoding := some "idna" }

def Settings.refusing : Settings :=
  { Settings.standard with defaultEncoding := some ("idna", Text.Codec.idna) }

theorem Options.check_refusing : Options.refusing.check .known = .ok .refusing := by
  have hencoding : Options.refusing.encoding .known = .ok (some ("idna", Text.Codec.idna)) := by
    simp only [Options.encoding, Options.refusing, Text.Registry.lookup_idna]
  simp only [Options.check, hencoding]
  rfl

/-- An encoding that passes and then refuses the title of the news, which are in good order. The run
breaks off at them. -/
theorem run_refusing : Options.refusing.check .known = .ok .refusing ∧
    Settings.refusing.WindowInCalendar noon ∧
    Delivers (Delivery.mk loneNews.bytes []) loneNews.bytes ∧
    let run := Grabber.run .refusing noon (Delivery.mk loneNews.bytes [])
    run.programmes = [] ∧ run.fault =
      some (.decoder (.refused ⟨"UnicodeError", "Unsupported error handling replace"⟩)) := by
  have hd := Delivery.delivers ⟨loneNews.bytes, []⟩ (by decide)
  have hscan : Scan.ofBytes Settings.refusing.bufferCapacity loneNews.bytes =
      ⟨[⟨loneNews, 0⟩], .exhausted, 0⟩ :=
    @Scan.scanFrom_sections _ _ [loneNews] (by decide) (by decide)
  have hdecoded : Decoder.inTurn .refusing noon .initial [loneNewsInfo] =
      ([], some (.refused ⟨"UnicodeError", "Unsupported error handling replace"⟩)) := by
    rw [Decoder.inTurn, Decoder.decode_of_events events_loneNewsInfo]
    decide +kernel
  obtain ⟨hprogrammes, hfault⟩ := Grabber.run_inTurn .refusing noon hd (by decide)
  rw [hscan, events?_loneNews rfl, hdecoded] at hprogrammes hfault
  exact ⟨Options.check_refusing, ⟨by decide, by decide, by decide⟩, hd, hprogrammes, hfault⟩

end BroadcastGuide
