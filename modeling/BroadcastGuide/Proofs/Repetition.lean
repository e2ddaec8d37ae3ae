import BroadcastGuide.Proofs.Grabber.Announcements
import BroadcastGuide.Proofs.Isolation

/-! A section that was decoded does nothing when it comes again, but that its records are counted as
repetitions. -/

namespace BroadcastGuide

open Calendar (Instant)

namespace Versions

/-- An announcement that would be a repetition, and change nothing. -/
def Knows (policy : VersionPolicy) (v : Versions) (a : Announcement) : Prop :=
  v.receive policy a.key a.version = (.repeated, v)

variable {policy : VersionPolicy} {v : Versions} {a b : Announcement}

theorem supersedes_self (policy : VersionPolicy) (n : Int) : policy.supersedes n n = false := by
  cases policy <;> simp [VersionPolicy.supersedes]

theorem knows_of_version? {stored : Int} (h : v.version? a.key = some stored)
    (old : policy.supersedes a.version stored = false) : v.Knows policy a := by
  simp only [Knows, receive, h, old, Bool.false_eq_true, if_false]

theorem Knows.exists_version? (h : v.Knows policy a) :
    ∃ stored, v.version? a.key = some stored ∧ policy.supersedes a.version stored = false := by
  rcases receive_cases policy v a.key a.version with
    ⟨_, hr⟩ | ⟨stored, hstored, ⟨_, hr⟩ | ⟨old, _⟩⟩
  · cases h.symm.trans hr
  · cases h.symm.trans hr
  · exact ⟨stored, hstored, old⟩

/-- What was just received is a repetition when it comes again. -/
theorem knows_receive (policy : VersionPolicy) (v : Versions) (a : Announcement) :
    (v.receive policy a.key a.version).2.Knows policy a := by
  rcases receive_cases policy v a.key a.version with
    ⟨_, hr⟩ | ⟨stored, hstored, ⟨_, hr⟩ | ⟨old, hr⟩⟩
  · rw [hr]
    exact knows_of_version? (version?_insert_self v a.key a.version) (supersedes_self _ _)
  · rw [hr]
    exact knows_of_version? (version?_insert_self v a.key a.version) (supersedes_self _ _)
  · rw [hr]
    exact knows_of_version? hstored old

/-- By the direct policy a repetition stays one, and by any policy as long as all that comes is of
the same version. -/
theorem Knows.receive (h : v.Knows policy a) (hb : policy = .direct ∨ b.version = a.version) :
    (v.receive policy b.key b.version).2.Knows policy a := by
  obtain ⟨stored, hstored, old⟩ := h.exists_version?
  by_cases hkey : a.key = b.key
  · rcases hb with rfl | hversion
    · have hmax : (v.receive .direct b.key b.version).2.version? a.key =
          some (max stored b.version) := by
        rw [hkey] at hstored ⊢
        rw [version?_receive_direct, hstored, Option.elim_some]
      refine knows_of_version? hmax ?_
      rw [← Bool.not_eq_true, supersedes_direct] at old ⊢
      omega
    · rw [← hkey, hversion, h]
      exact h
  · refine knows_of_version? ?_ old
    rw [version?_receive_of_ne policy v b.version hkey, hstored]

theorem Knows.receiveAll (h : v.Knows policy a) {l : List Announcement}
    (hl : ∀ b ∈ l, policy = .direct ∨ b.version = a.version) :
    (receiveAll policy v l).2.Knows policy a := by
  induction l generalizing v with
  | nil => exact h
  | cons b rest ih =>
    exact ih (h.receive (hl b List.mem_cons_self)) fun c hc => hl c (List.mem_cons_of_mem b hc)

/-- After announcements of one version all of them are repetitions. -/
theorem knows_receiveAll {l : List Announcement} (v : Versions) (ha : a ∈ l)
    (same : ∀ b ∈ l, b.version = a.version) : (receiveAll policy v l).2.Knows policy a := by
  obtain ⟨before, after, rfl⟩ := List.append_of_mem ha
  rw [receiveAll_append]
  refine (knows_receive policy _ a).receiveAll fun b hb => Or.inr (same b ?_)
  exact List.mem_append_right _ (List.mem_cons_of_mem a hb)

end Versions

namespace Decoder

variable {settings : Settings} {now : Instant} {info : EventSection} {state : DecoderState}

/-- The events of records are received in turn, all of them unless decoding breaks off. -/
theorem exists_received (settings : Settings) (now : Instant) (info : EventSection)
    (state : DecoderState) (rs : List EventRecord) :
    ∃ received, (records settings now info state rs).state.versions =
        (Versions.receiveAll settings.versionPolicy state.versions received).2 ∧
      ∀ ps, (records settings now info state rs).result = .ok ps →
        received = rs.map fun r => ⟨keyOf info r, info.version⟩ := by
  induction rs generalizing state with
  | nil => exact ⟨[], rfl, fun _ _ => rfl⟩
  | cons r rest ih =>
    obtain ⟨received, hreceived, hall⟩ := ih (record settings now info state r).state
    rw [versions_record] at hreceived
    rcases records_cases settings now info state r rest with
      ⟨e, -, h⟩ | ⟨p?, -, hstate, hresult⟩
    · refine ⟨[⟨keyOf info r, info.version⟩], ?_, fun ps hps => ?_⟩
      · rw [h]
        exact versions_record
      · rw [h] at hps
        cases hps
    · refine ⟨⟨keyOf info r, info.version⟩ :: received, ?_, fun ps hps => ?_⟩
      · rw [hstate]
        exact hreceived
      · obtain ⟨later, hlater, -⟩ := (hresult ps).mp hps
        exact congrArg _ (hall later hlater)

/-- After a section was decoded all its events are repetitions. -/
theorem knows_decode {ps : List Programme} (h : (decode settings now state info).result = .ok ps) :
    ∀ a ∈ info.announcements,
      (decode settings now state info).state.versions.Knows settings.versionPolicy a := by
  intro a ha
  obtain ⟨received, hreceived, hall⟩ :=
    exists_received settings now info state info.events.records
  have hannounced : received = info.announcements := hall ps (result_decode.symm.trans h)
  rw [versions_decode, hreceived, hannounced]
  refine Versions.knows_receiveAll state.versions ha fun b hb => ?_
  obtain ⟨r, -, rfl⟩ := List.mem_map.mp ha
  obtain ⟨s, -, rfl⟩ := List.mem_map.mp hb
  rfl

/-- What a decoder comes to from an earlier state: it decodes sections, each at a time of its own,
and others count as they like in between. -/
inductive LeadsTo (settings : Settings) (start : DecoderState) : DecoderState → Prop
  | refl : LeadsTo settings start start
  | decoded {state : DecoderState} (h : LeadsTo settings start state) (now : Instant)
      (info : EventSection) : LeadsTo settings start (decode settings now state info).state
  | counted {state : DecoderState} (h : LeadsTo settings start state) (f : Counters → Counters) :
      LeadsTo settings start (state.count f)

theorem LeadsTo.trans {start between : DecoderState} (h : LeadsTo settings start between)
    (h' : LeadsTo settings between state) : LeadsTo settings start state := by
  induction h' with
  | refl => exact h
  | decoded _ now info ih => exact ih.decoded now info
  | counted _ f ih => exact ih.counted f

/-- By the direct policy repetitions stay repetitions, whatever is decoded. -/
theorem LeadsTo.knows {start : DecoderState} (h : LeadsTo settings start state)
    (direct : settings.versionPolicy = .direct) {a : Announcement}
    (known : start.versions.Knows settings.versionPolicy a) :
    state.versions.Knows settings.versionPolicy a := by
  induction h with
  | refl => exact known
  | decoded _ now info ih =>
    rename_i state _
    obtain ⟨received, hreceived, -⟩ :=
      exists_received settings now info state info.events.records
    rw [versions_decode, hreceived]
    exact ih.receiveAll fun _ _ => Or.inl direct
  | counted _ f ih => exact ih

/-- After a section was decoded all its events are repetitions, by the direct policy for good, and
by the serial policy until another version is stored. -/
theorem knows_since {start : DecoderState} {ps : List Programme}
    (accepted : (decode settings now start info).result = .ok ps)
    (since : LeadsTo settings (decode settings now start info).state state)
    (lasting : settings.versionPolicy = .direct ∨
      state.versions = (decode settings now start info).state.versions) :
    ∀ a ∈ info.announcements, state.versions.Knows settings.versionPolicy a := by
  intro a ha
  have known := knows_decode accepted a ha
  rcases lasting with direct | unchanged
  · exact since.knows direct known
  · rwa [unchanged]

theorem record_of_known (now : Instant) {r : EventRecord}
    (h : state.versions.Knows settings.versionPolicy ⟨keyOf info r, info.version⟩) :
    record settings now info state r =
      ⟨state.count fun c => { c with repeats := c.repeats + 1 }, .ok none⟩ := by
  have hreceive : state.versions.receive settings.versionPolicy (keyOf info r) info.version =
    (.repeated, state.versions) := h
  rcases record_cases settings now info state r with
    ⟨-, hafter⟩ | ⟨newer, -⟩ | ⟨newer, -⟩ | ⟨fresh, -⟩
  · rw [hafter, hreceive]
  · rw [hreceive] at newer
    cases newer
  · rw [hreceive] at newer
    cases newer
  · rw [hreceive] at fresh
    cases fresh

theorem records_cons_of_ok {r : EventRecord} {rest : List EventRecord} {next after : DecoderState}
    {p? : Option Programme} {ps : List Programme}
    (first : record settings now info state r = ⟨next, .ok p?⟩)
    (others : records settings now info next rest = ⟨after, .ok ps⟩) :
    records settings now info state (r :: rest) = ⟨after, .ok (p?.toList ++ ps)⟩ := by
  simp only [records, first, others]

theorem records_of_known (now : Instant) {rs : List EventRecord}
    (h : ∀ r ∈ rs, state.versions.Knows settings.versionPolicy ⟨keyOf info r, info.version⟩) :
    records settings now info state rs =
      ⟨state.count fun c => { c with repeats := c.repeats + rs.length }, .ok []⟩ := by
  induction rs generalizing state with
  | nil => simp [records, DecoderState.count]
  | cons r rest ih =>
    -- counting leaves the versions as they are, so the rest is known as before
    have hfirst := record_of_known now (h r List.mem_cons_self)
    have hnext : ∀ s ∈ rest,
        (state.count fun c => { c with repeats := c.repeats + 1 }).versions.Knows
          settings.versionPolicy ⟨keyOf info s, info.version⟩ :=
      fun s hs => h s (List.mem_cons_of_mem r hs)
    rw [records_cons_of_ok hfirst (ih hnext)]
    have hlength : ((r :: rest).length : Int) = 1 + rest.length := by
      rw [List.length_cons]
      omega
    simp only [DecoderState.count, hlength, Int.add_assoc]
    rfl

/-- A section of which all events are known gives no programme. Its records are counted as
repetitions, and a fault that ends its walk as an error. -/
theorem decode_of_known
    (h : ∀ a ∈ info.announcements, state.versions.Knows settings.versionPolicy a) :
    decode settings now state info =
      ⟨state.count fun c =>
        { c with
          repeats := c.repeats + info.events.records.length
          decodeErrors := c.decodeErrors + if info.events.fault.isSome then 1 else 0 },
        .ok []⟩ := by
  have hrecords := records_of_known now fun r hr => h _ (List.mem_map_of_mem hr)
  unfold decode
  simp only [hrecords]
  cases info.events.fault <;> simp [DecoderState.count]

end Decoder

/-! ### A run over sections -/

namespace Grabber

open Decoder (LeadsTo)

theorem handle_leadsTo (settings : Settings) (now : Instant) (state : GrabState)
    (s : RawSection) :
    LeadsTo settings state.decoder (handle settings now state s).state.decoder := by
  cases hinfo : settings.events? s with
  | none =>
    obtain ⟨next, hhandle, hversions⟩ := handle_of_none now state hinfo
    have hnext : next.decoder = state.decoder.count fun _ => next.decoder.counters := by
      rw [DecoderState.count, ← hversions]
    rw [hhandle, hnext]
    exact LeadsTo.refl.counted _
  | some info =>
    have hseen : LeadsTo settings state.decoder (seen state).decoder :=
      LeadsTo.refl.counted fun c => { c with packets := c.packets + 1 }
    rw [handle_of_some now state hinfo]
    dsimp only
    split <;> exact hseen.decoded now info

theorem handleSections_leadsTo (settings : Settings) (now : Instant) (state : GrabState)
    (sections : List RawSection) :
    LeadsTo settings state.decoder (handleSections settings now state sections).state.decoder := by
  induction sections generalizing state with
  | nil => exact .refl
  | cons s rest ih =>
    have hfirst := handle_leadsTo settings now state s
    unfold handleSections
    dsimp only
    split
    · exact hfirst
    · exact hfirst.trans (ih _)

/-- A section of which all events are known shows no programme. -/
theorem handle_of_known {settings : Settings} {now : Instant} {state : GrabState} {s : RawSection}
    {info : EventSection} (hinfo : settings.events? s = some info)
    (h : ∀ a ∈ info.announcements, state.decoder.versions.Knows settings.versionPolicy a) :
    handle settings now state s =
      let next : GrabState :=
        ⟨state.decoder.count fun c =>
          { c with
            packets := c.packets + 1
            repeats := c.repeats + info.events.records.length
            decodeErrors := c.decodeErrors + if info.events.fault.isSome then 1 else 0 },
          state.touches + 1⟩
      ⟨next, [.progress next.decoder.counters next.touches], none⟩ := by
  have hdecode : Decoder.decode settings now (seen state).decoder info = _ :=
    Decoder.decode_of_known h
  rw [handle_of_some now state hinfo, hdecode]
  rfl

end Grabber

namespace Decoder

variable {settings : Settings} {info : EventSection} {state : DecoderState}

/-- A section that was decoded gives no programme when it comes again, and changes no version. Its
records are counted as repetitions, and a fault that ends its walk is counted once more. By the
serial policy this holds until another version is stored. So it is in a run that comes by the
section again, at once or, by the direct policy, after any others. -/
theorem decode_again {now later : Instant} {start : DecoderState} {ps : List Programme}
    (accepted : (decode settings now start info).result = .ok ps)
    (since : LeadsTo settings (decode settings now start info).state state)
    (lasting : settings.versionPolicy = .direct ∨
      state.versions = (decode settings now start info).state.versions) :
    decode settings later state info =
      ⟨state.count fun c =>
        { c with
          repeats := c.repeats + info.events.records.length
          decodeErrors := c.decodeErrors + if info.events.fault.isSome then 1 else 0 },
        .ok []⟩ ∧
    ∀ (s : RawSection) (touches : Nat) (between : List RawSection),
      settings.events? s = some info → settings.versionPolicy = .direct ∨ between = [] →
        let again := (Grabber.handleSections settings later ⟨state, touches⟩ between).state
        let next : GrabState :=
          ⟨again.decoder.count fun c =>
            { c with
              packets := c.packets + 1
              repeats := c.repeats + info.events.records.length
              decodeErrors := c.decodeErrors + if info.events.fault.isSome then 1 else 0 },
            again.touches + 1⟩
        Grabber.handle settings later again s =
          ⟨next, [.progress next.decoder.counters next.touches], none⟩ := by
  have known := knows_since accepted since lasting
  refine ⟨decode_of_known known, fun s touches between hinfo h => ?_⟩
  refine Grabber.handle_of_known hinfo fun a ha => ?_
  rcases h with direct | rfl
  · exact (Grabber.handleSections_leadsTo settings later ⟨state, touches⟩ between).knows direct
      (known a ha)
  · exact known a ha

/-- Two records of one event, and the beginning of a third. -/
def brokenOff : EventSection :=
  ⟨0x4E, 1, 3, true, 0, 0, 1, 0x233A, 0, 0x4E,
    [newsRecord, garbledRecord].flatMap EventRecord.encode ++ [0, 1, 2]⟩

theorem events_brokenOff :
    brokenOff.events = ⟨[newsRecord, garbledRecord], some (.eventHeaderOverrun 46)⟩ := by
  have fits : ∀ r ∈ [newsRecord, garbledRecord], r.Fits :=
    List.forall_mem_cons.mpr ⟨fits_newsRecord, List.forall_mem_singleton.mpr fits_garbledRecord⟩
  have hrest (offset : Nat) :
      EventRecord.walkFrom offset [0, 1, 2] = ⟨[], some (.eventHeaderOverrun offset)⟩ := by
    simp [EventRecord.walkFrom]
  rw [EventSection.events, brokenOff, EventRecord.walkFrom_append fits]
  simp only [hrest]
  decide

/-- A newer version of the event comes between. -/
theorem decode_again_brokenOff :
    let first := decode .standard noon .initial brokenOff
    let state := (decode .standard noon first.state { brokenOff with version := 5 }).state
    (∃ ps, first.result = .ok ps) ∧ LeadsTo .standard first.state state ∧
      Settings.standard.versionPolicy = .direct ∧
      decode .standard noon state brokenOff =
        ⟨state.count fun c =>
          { c with repeats := c.repeats + 2, decodeErrors := c.decodeErrors + 1 }, .ok []⟩ := by
  intro first state
  have hwindow : Settings.standard.WindowInCalendar noon := ⟨by decide, by decide, by decide⟩
  obtain ⟨ps, accepted⟩ : ∃ ps, first.result = .ok ps :=
    decode_isOk Settings.isTotal_standard (by decide) (by decide) hwindow brokenOff .initial
  have since : LeadsTo .standard first.state state :=
    LeadsTo.refl.decoded noon { brokenOff with version := 5 }
  obtain ⟨again, -⟩ : decode .standard noon state brokenOff = _ ∧ _ :=
    decode_again accepted since (Or.inl rfl)
  rw [events_brokenOff] at again
  exact ⟨⟨ps, accepted⟩, since, rfl, again⟩

end Decoder

end BroadcastGuide
