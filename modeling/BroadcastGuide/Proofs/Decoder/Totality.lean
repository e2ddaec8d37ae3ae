import BroadcastGuide.Proofs.Decoder
import BroadcastGuide.Proofs.Descriptor.Fields
import BroadcastGuide.Proofs.Calendar.Field

/-! Decoding breaks off at a text that the codec of the default encoding refuses, and nowhere else
where the calendar has the windows around now. -/

namespace BroadcastGuide

open Calendar (Instant OutOfCalendar)

/-- The calendar has the time of day and both ends of the windows around it. -/
structure Settings.WindowInCalendar (settings : Settings) (now : Int) : Prop where
  present : Instant.inCalendar now = true
  earliest : Instant.inCalendar (now - settings.pastWindow) = true
  latest : Instant.inCalendar (now + settings.futureWindow) = true

theorem Settings.inWindow_eq {settings : Settings} {now : Int}
    (h : settings.WindowInCalendar now) (stop : Int) :
    settings.inWindow now stop = .ok (decide
      (now - settings.pastWindow ≤ stop ∧ stop ≤ now + settings.futureWindow)) := by
  have hnow : Instant.shift now 0 = .ok now := by
    have hin : Instant.inCalendar (now + 0) = true := by simpa using h.present
    simpa using Calendar.Instant.shift_eq hin
  have hearliest : Instant.shift now (-settings.pastWindow) = .ok (now - settings.pastWindow) :=
    Calendar.Instant.shift_eq h.earliest
  have hlatest : Instant.shift now settings.futureWindow = .ok (now + settings.futureWindow) :=
    Calendar.Instant.shift_eq h.latest
  simp only [inWindow, hnow, hearliest, hlatest]
  split
  · rename_i hlt
    rw [decide_eq_false]
    intro hin
    exact absurd hin.1 (Int.not_le.mpr hlt)
  · rename_i hge
    congr 1
    simp only [decide_eq_decide]
    exact ⟨fun hstop => ⟨Int.not_lt.mp hge, hstop⟩, And.right⟩

/-- What options that pass say about the settings. -/
theorem Options.check_eq_ok {registry : Text.Registry} {options : Options} {settings : Settings}
    (h : options.check registry = .ok settings) :
    -12 ≤ settings.timeOffset ∧ settings.timeOffset ≤ 12 ∧ 16 ≤ settings.bufferCapacity := by
  unfold check at h
  simp only [bind, Except.bind, throw, throwThe, MonadExceptOf.throw, pure, Except.pure] at h
  split at h
  · cases h
  split at h
  · cases h
  rename_i hoffset
  split at h
  · split at h
    · cases h
    split at h
    · cases h
    rename_i hcapacity
    split at h
    · cases h
    cases h
    dsimp only
    omega
  · cases h

namespace Decoder

variable {settings : Settings} {now : Int}

theorem duration_le {r : EventRecord} {seconds : Nat} (h : r.duration = .ok seconds) :
    seconds ≤ 362439 := by
  unfold EventRecord.duration Calendar.Duration.decode at h
  cases hc : Calendar.Bcd.clock r.durationField with
  | error e => simp [hc, Except.map] at h
  | ok c =>
    simp only [hc, Except.map, Except.ok.injEq] at h
    rw [← h]
    exact Calendar.Bcd.total_clock_le hc

/-- The time fields of a record are malformed, or its times are those of broadcasts. -/
theorem times_cases (low : -12 ≤ settings.timeOffset) (high : settings.timeOffset ≤ 12)
    (r : EventRecord) : times settings r = .ok none ∨
      ∃ start stop : Int, times settings r = .ok (some (start, stop)) ∧
        -3600000000 ≤ start ∧ start ≤ stop ∧ stop ≤ 2302000000 := by
  unfold times
  rcases Calendar.StartTime.decode_cases low high r.startField with ⟨e, he⟩ | ⟨t, ht, h₁, h₂⟩
  · exact Or.inl (by simp only [EventRecord.start, he])
  · simp only [EventRecord.start, ht]
    cases hd : r.duration with
    | error e => exact Or.inl rfl
    | ok seconds =>
      have hle := duration_le hd
      have hin : Calendar.Instant.inCalendar (t + seconds) = true :=
        Calendar.Instant.inCalendar_iff.mpr (by omega)
      have hstop := Calendar.Instant.shift_eq hin
      exact Or.inr ⟨t, t + seconds, by simp only [hstop], by omega, by omega, by omega⟩

theorem times_isOk (low : -12 ≤ settings.timeOffset) (high : settings.timeOffset ≤ 12)
    (r : EventRecord) : ∃ times?, times settings r = .ok times? := by
  rcases times_cases low high r with h | ⟨start, stop, h, -⟩ <;> exact ⟨_, h⟩

/-- The codec of the default encoding refuses a text in the descriptors of a record. -/
def Refuses (settings : Settings) (r : EventRecord) (fault : Text.CodecFault) : Prop :=
  ∃ read, DescriptorLoop.ofBytes r.descriptors = .ok read ∧
    ∃ field ∈ Projection.fields read.descriptors, settings.codec.refusal? field = some fault

theorem not_refuses (total : settings.codec.IsTotal) (r : EventRecord) (fault : Text.CodecFault) :
    ¬ Refuses settings r fault := by
  rintro ⟨read, -, field, -, hrefused⟩
  rw [total.refusal?_eq_none] at hrefused
  cases hrefused

theorem fill_refuses {state : DecoderState} {r : EventRecord} {p : Programme} {e : DecoderFault}
    (h : (fill settings state r.descriptors p).result = .error e) :
    ∃ fault, e = .refused fault ∧ Refuses settings r fault := by
  rcases fill_cases settings state r.descriptors p with
    ⟨_, -, hafter⟩ | ⟨read, hread, ⟨fault, hrefusal, hafter⟩ | ⟨-, -, hafter⟩ | ⟨-, -, hafter⟩⟩
  · rw [hafter] at h
    cases h
  · rw [hafter] at h
    cases h
    exact ⟨fault, rfl, read, hread, Text.Codec.exists_refused hrefusal⟩
  · rw [hafter] at h
    cases h
  · rw [hafter] at h
    cases h

theorem admitted_refuses (low : -12 ≤ settings.timeOffset) (high : settings.timeOffset ≤ 12)
    (window : settings.WindowInCalendar now) {info : EventSection} {state : DecoderState}
    {r : EventRecord} {isUpdate : Bool} {e : DecoderFault}
    (h : (admitted settings now info state r isUpdate).result = .error e) :
    ∃ fault, e = .refused fault ∧ Refuses settings r fault := by
  obtain ⟨times?, ht⟩ := times_isOk low high r
  unfold admitted at h
  cases times? with
  | none =>
    simp only [ht] at h
    cases h
  | some startStop =>
    simp only [ht, Settings.inWindow_eq window] at h
    split at h
    · cases h
    · exact fill_refuses h

/-- Where the calendar has all times, decoding breaks off at a record only if the codec refuses one
of its texts. -/
theorem record_refuses (low : -12 ≤ settings.timeOffset) (high : settings.timeOffset ≤ 12)
    (window : settings.WindowInCalendar now) {info : EventSection} {state : DecoderState}
    {r : EventRecord} {e : DecoderFault}
    (h : (record settings now info state r).result = .error e) :
    ∃ fault, e = .refused fault ∧ Refuses settings r fault := by
  rcases record_cases settings now info state r with
    ⟨-, hafter⟩ | ⟨-, -, hafter⟩ | ⟨-, -, hafter⟩ | ⟨-, hafter⟩
  · rw [hafter] at h
    cases h
  · rw [hafter] at h
    cases h
  · rw [hafter] at h
    exact admitted_refuses low high window h
  · rw [hafter] at h
    exact admitted_refuses low high window h

theorem records_refuses (low : -12 ≤ settings.timeOffset) (high : settings.timeOffset ≤ 12)
    (window : settings.WindowInCalendar now) {info : EventSection} {state : DecoderState}
    {rs : List EventRecord} {e : DecoderFault}
    (h : (records settings now info state rs).result = .error e) :
    ∃ r ∈ rs, ∃ fault, e = .refused fault ∧ Refuses settings r fault := by
  induction rs generalizing state with
  | nil => cases h
  | cons r rest ih =>
    simp only [records] at h
    cases hfirst : (record settings now info state r).result with
    | error first =>
      rw [hfirst] at h
      cases h
      exact ⟨r, List.mem_cons_self, record_refuses low high window hfirst⟩
    | ok p? =>
      rw [hfirst] at h
      cases hothers :
          (records settings now info (record settings now info state r).state rest).result with
      | error later =>
        rw [hothers] at h
        cases h
        obtain ⟨s, hs, hrefused⟩ := ih hothers
        exact ⟨s, List.mem_cons_of_mem r hs, hrefused⟩
      | ok ps =>
        rw [hothers] at h
        cases h

theorem decode_refuses (low : -12 ≤ settings.timeOffset) (high : settings.timeOffset ≤ 12)
    (window : settings.WindowInCalendar now) {info : EventSection} {state : DecoderState}
    {e : DecoderFault} (h : (decode settings now state info).result = .error e) :
    ∃ r ∈ info.events.records, ∃ fault, e = .refused fault ∧ Refuses settings r fault :=
  records_refuses low high window (result_decode.symm.trans h)

theorem record_isOk (total : settings.codec.IsTotal) (low : -12 ≤ settings.timeOffset)
    (high : settings.timeOffset ≤ 12) (window : settings.WindowInCalendar now)
    (info : EventSection) (state : DecoderState) (r : EventRecord) :
    ∃ p?, (record settings now info state r).result = .ok p? := by
  cases h : (record settings now info state r).result with
  | ok p? => exact ⟨p?, rfl⟩
  | error e =>
    obtain ⟨fault, -, hrefused⟩ := record_refuses low high window h
    exact absurd hrefused (not_refuses total r fault)

theorem decode_isOk (total : settings.codec.IsTotal) (low : -12 ≤ settings.timeOffset)
    (high : settings.timeOffset ≤ 12) (window : settings.WindowInCalendar now)
    (info : EventSection) (state : DecoderState) :
    ∃ ps, (decode settings now state info).result = .ok ps := by
  cases h : (decode settings now state info).result with
  | ok ps => exact ⟨ps, rfl⟩
  | error e =>
    obtain ⟨r, -, fault, -, hrefused⟩ := decode_refuses low high window h
    exact absurd hrefused (not_refuses total r fault)

end Decoder

/-- The settings of options that nobody has changed. -/
def Settings.standard : Settings :=
  { timeOffset := 0, emitUpdates := false, includeInvalidDates := false, defaultEncoding := none
    versionPolicy := .direct, pastWindow := 86400, futureWindow := 1209600
    tableFilter := 0, tableMask := 0, bufferCapacity := 4096 }

/-- The Latin table refuses nothing. -/
theorem Settings.isTotal_standard : Settings.standard.codec.IsTotal :=
  Text.CharacterTable.latin.codec_isTotal

end BroadcastGuide
