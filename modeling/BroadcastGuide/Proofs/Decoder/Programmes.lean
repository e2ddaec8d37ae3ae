import BroadcastGuide.Proofs.Descriptor.Selection
import BroadcastGuide.Proofs.Isolation
import Mathlib.Data.List.Forall2
import Mathlib.Data.List.Nodup

/-! What holds of the programmes that a section gives, whatever its bytes are and whatever came
before it. -/

namespace BroadcastGuide

open Calendar (Instant)
open Text (CharacterTable Tallied)

/-! ### Contents -/

namespace Labels

/-- Blank labels aside, no two content codes have the same label. -/
theorem nodup_contentCategories :
    ((contentCategories.filter (·.2 ≠ "")).map (·.2)).Nodup := by
  decide +kernel

theorem mem_of_label?_eq_some {table : Table} {n : Int} {label : String}
    (h : label? table n = some label) : (n, label) ∈ table := by
  obtain ⟨before, after, htable, -⟩ := List.lookup_eq_some_iff.mp h
  rw [htable]
  exact List.mem_append_right _ List.mem_cons_self

theorem code_eq_of_label_eq {n m : Int} {label : String}
    (hn : label? contentCategories n = some label) (hm : label? contentCategories m = some label)
    (filled : label ≠ "") : n = m := by
  have hmem {k : Int} (hk : label? contentCategories k = some label) :
      (k, label) ∈ contentCategories.filter (·.2 ≠ "") :=
    List.mem_filter.mpr ⟨mem_of_label?_eq_some hk, decide_eq_true filled⟩
  have hpair := List.inj_on_of_nodup_map nodup_contentCategories (hmem hn) (hmem hm) rfl
  exact congrArg Prod.fst hpair

end Labels

namespace Projection

theorem langTexts_text_ne (table : CharacterTable) (fields : List (String × Octets)) :
    ∀ t ∈ (langTexts table fields).value, t.text ≠ "" := by
  induction fields with
  | nil => exact fun _ ht => absurd ht List.not_mem_nil
  | cons field rest ih =>
    obtain ⟨language, bytes⟩ := field
    rw [langTexts]
    split
    · exact ih
    · simp only [Tallied.value_bind, Tallied.value_pure]
      split
      · exact ih
      · rename_i filled
        exact List.forall_mem_cons.mpr ⟨fun h => filled (String.isEmpty_iff.mpr h), ih⟩

theorem ratings_bounds (codes : List Nat) : ∀ age ∈ ratings codes, 4 ≤ age ∧ age ≤ 18 := by
  intro age hage
  obtain ⟨code, -, hcode⟩ := List.mem_filterMap.mp hage
  split at hcode
  · cases hcode
    omega
  · cases hcode

theorem code_eq_of_genre?_eq {n m : Nat} {label : String} (hn : genre? n = some label)
    (hm : genre? m = some label) : n = m := by
  obtain ⟨hlabel, filled⟩ := Option.filter_eq_some_iff.mp hn
  obtain ⟨hlabel', -⟩ := Option.filter_eq_some_iff.mp hm
  exact Int.ofNat_inj.mp (Labels.code_eq_of_label_eq hlabel hlabel' (of_decide_eq_true filled))

theorem nodup_eraseDups (codes : List Nat) : codes.eraseDups.Nodup := by
  match codes with
  | [] => exact List.nodup_nil
  | code :: rest =>
    rw [List.eraseDups_cons, List.nodup_cons]
    exact ⟨by simp, nodup_eraseDups (rest.filter fun c => !c == code)⟩
termination_by codes.length
decreasing_by exact Nat.lt_succ_of_le (List.length_filter_le _ rest)

theorem categories_nodup (seen codes : List Nat) : (categories seen codes).Nodup := by
  rw [categories_eq]
  exact (nodup_eraseDups _).filterMap fun _ _ _ => code_eq_of_genre?_eq

end Projection

/-! ### Times -/

theorem Settings.inWindow_eq_ok_true {settings : Settings} {now stop : Int}
    (h : settings.inWindow now stop = .ok true) :
    now - settings.pastWindow ≤ stop ∧ stop ≤ now + settings.futureWindow := by
  unfold inWindow at h
  cases hnow : Instant.shift now 0 with
  | error e => simp [hnow] at h
  | ok present =>
    have hpresent := Calendar.Instant.eq_of_shift_eq_ok hnow
    cases hfirst : Instant.shift present (-settings.pastWindow) with
    | error e => simp [hnow, hfirst] at h
    | ok earliest =>
      have hearliest := Calendar.Instant.eq_of_shift_eq_ok hfirst
      simp only [hnow, hfirst] at h
      split at h
      · cases h
      rename_i hge
      cases hlast : Instant.shift present settings.futureWindow with
      | error e => simp [hlast] at h
      | ok latest =>
        have hlatest := Calendar.Instant.eq_of_shift_eq_ok hlast
        simp only [hlast, Except.ok.injEq, decide_eq_true_eq] at h
        have hle := Int.not_lt.mp hge
        have hle' : stop ≤ latest := h
        constructor
        · omega
        · omega

namespace Decoder

variable {settings : Settings} {now : Instant} {info : EventSection} {r : EventRecord}
  {state : DecoderState}

theorem start_le_stop {start stop : Int} (h : times settings r = .ok (some (start, stop))) :
    start ≤ stop := by
  unfold times at h
  split at h
  · cases h
  · cases h
  · split at h
    · cases h
    · split at h
      · cases h
      · rename_i start' _ seconds _ stop' hshift
        cases h
        have hstop := Calendar.Instant.eq_of_shift_eq_ok hshift
        omega

/-! ### A section -/

/-- What a programme owes to its record, to the header of its section and to the settings. -/
structure Conforms (settings : Settings) (now : Instant) (info : EventSection) (p : Programme)
    (r : EventRecord) : Prop where
  eventId_eq : p.eventId = r.eventId
  serviceId_eq : p.serviceId = info.serviceId
  version_eq : p.version = info.version
  titled : p.titles ≠ []
  titles : ∀ t ∈ p.titles, t.text ≠ ""
  subtitles : ∀ t ∈ p.subtitles, t.text ≠ ""
  start_le_stop : p.start ≤ p.stop
  inside : settings.includeInvalidDates = false →
    now - settings.pastWindow ≤ p.stop ∧ p.stop ≤ now + settings.futureWindow
  wanted : p.isUpdate = true → settings.emitUpdates = true
  ratings : ∀ age ∈ p.ratings, 4 ≤ age ∧ age ≤ 18
  categories : p.categories.Nodup

/-- What a programme has from its descriptors. -/
theorem Gives.contents {isUpdate : Bool} {p : Programme}
    (h : Gives settings now info r isUpdate p) :
    ∃ ds : List Descriptor,
      p.titles = (Projection.langTexts settings.table
        ((Projection.shortEvents ds).map fun d => (d.language, d.name))).value ∧
      p.subtitles = (Projection.langTexts settings.table
        ((Projection.shortEvents ds).map fun d => (d.language, d.text))).value ∧
      p.ratings = Projection.ratings (Projection.ratingCodes ds) ∧
      p.categories = Projection.categories [] (Projection.contentCodes ds) := by
  obtain ⟨read, -, hp⟩ := h.filled
  refine ⟨read.descriptors, ?_, ?_, ?_, ?_⟩
  · exact congrArg Programme.titles hp
  · exact congrArg Programme.subtitles hp
  · exact congrArg Programme.ratings hp
  · exact congrArg Programme.categories hp

theorem Gives.conforms {isUpdate : Bool} {p : Programme} (h : Gives settings now info r isUpdate p)
    (wanted : isUpdate = true → settings.emitUpdates = true) :
    Conforms settings now info p r := by
  have hkey := h.key_eq
  obtain ⟨ds, htitles, hsubtitles, hratings, hcategories⟩ := h.contents
  constructor
  · exact congrArg EventKey.eventId hkey
  · exact congrArg EventKey.serviceId hkey
  · exact h.version_eq
  · exact h.titled
  · rw [htitles]
    exact Projection.langTexts_text_ne _ _
  · rw [hsubtitles]
    exact Projection.langTexts_text_ne _ _
  · exact Decoder.start_le_stop h.times
  · intro strict
    obtain ⟨inside, hinside, passes⟩ := h.inside
    have htrue : inside = true := by simpa [strict] using passes
    exact Settings.inWindow_eq_ok_true (htrue ▸ hinside)
  · rwa [h.isUpdate_eq]
  · rw [hratings]
    exact Projection.ratings_bounds _
  · rw [hcategories]
    exact Projection.categories_nodup _ _

theorem record_conforms {p : Programme}
    (h : (record settings now info state r).result = .ok (some p)) :
    Conforms settings now info p r := by
  obtain ⟨isUpdate, hgives, admitted⟩ := record_eq_some h
  refine hgives.conforms fun updated => ?_
  rcases admitted with ⟨-, fresh⟩ | ⟨-, -, wanted⟩
  · cases fresh.symm.trans updated
  · exact wanted

theorem records_conform {rs : List EventRecord} {ps : List Programme}
    (h : (records settings now info state rs).result = .ok ps) :
    List.SublistForall₂ (Conforms settings now info) ps rs := by
  induction rs generalizing state ps with
  | nil =>
    cases h
    exact .nil
  | cons r rest ih =>
    rcases records_cases settings now info state r rest with ⟨e, -, hall⟩ | ⟨p?, hfirst, -, hall⟩
    · rw [hall] at h
      cases h
    · obtain ⟨later, hlater, rfl⟩ := (hall ps).mp h
      cases p? with
      | none => exact .cons_right (ih hlater)
      | some p => exact .cons (record_conforms hfirst) (ih hlater)

/-- Each programme that a section gives stands for one of its records, in their order. It has a
title, texts that say something, and times, ratings and categories that make sense; it is an update
or lies outside the windows only if such are wanted. Where the calendar has the windows around now,
a section gives its programmes unless the codec of the default encoding refuses a text of a record,
and it gives them if the codec refuses nothing. -/
theorem decode_conforms (settings : Settings) (now : Instant) (state : DecoderState)
    (info : EventSection) :
    (∀ ps, (decode settings now state info).result = .ok ps →
        ∃ given : List EventRecord, given.Sublist info.events.records ∧
          List.Forall₂ (Conforms settings now info) ps given) ∧
      ∀ (registry : Text.Registry) (options : Options), options.check registry = .ok settings →
        settings.WindowInCalendar now →
          ((∃ ps, (decode settings now state info).result = .ok ps) ∨
            ∃ r ∈ info.events.records, ∃ fault, Refuses settings r fault ∧
              (decode settings now state info).result = .error (.refused fault)) ∧
          (settings.codec.IsTotal → ∃ ps, (decode settings now state info).result = .ok ps) := by
  constructor
  · intro ps h
    obtain ⟨given, hgiven, hsub⟩ :=
      List.sublistForall₂_iff.mp (records_conform (decode_eq_ok h).1)
    exact ⟨given, hsub, hgiven⟩
  · intro registry options accepted window
    obtain ⟨low, high, -⟩ := Options.check_eq_ok accepted
    refine ⟨?_, fun total => decode_isOk total low high window info state⟩
    cases hresult : (decode settings now state info).result with
    | ok ps => exact Or.inl ⟨ps, rfl⟩
    | error e =>
      obtain ⟨r, hr, fault, rfl, hrefused⟩ := decode_refuses low high window hresult
      exact Or.inr ⟨r, hr, fault, hrefused, rfl⟩

/-- News after an event that lies outside the windows. -/
theorem decode_conforms_news :
    let info : EventSection :=
      ⟨0x4E, 1, 3, true, 0, 0, 1, 0x233A, 0, 0x4E, oldRecord.encode ++ newsRecord.encode⟩
    Options.standard.check .known = .ok .standard ∧ Settings.standard.WindowInCalendar noon ∧
      ∃ p, (decode .standard noon .initial info).result = .ok [p] ∧
        Conforms .standard noon info p newsRecord := by
  intro info
  have hcheck : Options.standard.check .known = .ok .standard := rfl
  have hwindow : Settings.standard.WindowInCalendar noon := ⟨by decide, by decide, by decide⟩
  have hevents : info.events = ⟨[oldRecord, newsRecord], none⟩ :=
    EventRecord.walkFrom_pair fits_oldRecord fits_newsRecord 0
  obtain ⟨hall, hok⟩ := decode_conforms .standard noon .initial info
  obtain ⟨ps, hps⟩ := (hok .known .standard hcheck hwindow).2 Settings.isTotal_standard
  have hkeys : ps.map (·.key) = [⟨1, 1⟩] := by
    have hdecoded : (decode .standard noon .initial info).result.toOption.map
        (·.map (·.key)) = some [⟨1, 1⟩] := by
      rw [decode_of_events hevents]
      decide +kernel
    rw [hps] at hdecoded
    exact Option.some.inj hdecoded
  obtain ⟨p, rfl, hkey⟩ := List.map_eq_singleton_iff.mp hkeys
  obtain ⟨given, hsub, hgiven⟩ := hall [p] hps
  obtain ⟨r, rest, hr, hrest, rfl⟩ := List.forall₂_cons_left_iff.mp hgiven
  have hmem := hsub.subset List.mem_cons_self
  have hevent : p.eventId = 1 := congrArg EventKey.eventId hkey
  rw [hevents] at hmem
  rcases List.mem_pair.mp hmem with rfl | rfl
  · exact absurd (hr.eventId_eq.symm.trans hevent) (by decide)
  · exact ⟨hcheck, hwindow, p, hps, hr⟩

end Decoder

end BroadcastGuide
