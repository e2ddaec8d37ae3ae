import BroadcastGuide.Proofs.Decoder
import BroadcastGuide.Proofs.Grabber.Run
import BroadcastGuide.Proofs.Versions

/-! The events that a run comes by, and the programmes that it answers them with. An event is
answered once, and again only with a newer version. -/

namespace BroadcastGuide

open Calendar (Instant)

/-- What a programme is an answer to. -/
def Programme.announcement (p : Programme) : Announcement := ⟨p.key, p.version⟩

/-- An announcement, and the programme that it was answered with, if any. -/
structure Answer where
  announcement : Announcement
  programme? : Option Programme
  deriving DecidableEq, Repr

def Answer.programmes (answers : List Answer) : List Programme := answers.filterMap (·.programme?)

namespace EventSection

def announcements (info : EventSection) : List Announcement :=
  info.events.records.map fun r => ⟨Decoder.keyOf info r, info.version⟩

end EventSection

namespace Grabber

/-- The events that a section announces, if its table is wanted, its checksum right and its header
well formed. -/
def announcements (settings : Settings) (raw : RawSection) : List Announcement :=
  if settings.acceptsTable raw.tableId.toNat && raw.isIntact then
    match EventSection.ofRaw raw with
    | .ok info => info.announcements
    | .error _ => []
  else []

end Grabber

/-! ### Answers, one after another -/

/-- A programme that an announcement may be answered with: a new one if the event was never
announced, or an update, if updates are wanted, if the version takes the place of the one stored. -/
structure Answer.Fits (settings : Settings) (v : Versions) (a : Announcement) (p : Programme) :
    Prop where
  announcement : p.announcement = a
  admission : (v.receive settings.versionPolicy a.key a.version).1 = .fresh ∧ p.isUpdate = false ∨
    (v.receive settings.versionPolicy a.key a.version).1 = .updated ∧ p.isUpdate = true ∧
      settings.emitUpdates = true

/-- Answers that fit, given in turn from one state of the versions to another. -/
inductive Answers (settings : Settings) : Versions → List Answer → Versions → Prop
  | nil (v : Versions) : Answers settings v [] v
  | cons {v after : Versions} {a : Announcement} {p? : Option Programme} {rest : List Answer}
      (fits : ∀ p, p? = some p → Answer.Fits settings v a p)
      (tail : Answers settings (v.receive settings.versionPolicy a.key a.version).2 rest after) :
      Answers settings v (⟨a, p?⟩ :: rest) after

namespace Answers

variable {settings : Settings} {v between after : Versions} {answers later : List Answer}

theorem append (h : Answers settings v answers between)
    (h' : Answers settings between later after) :
    Answers settings v (answers ++ later) after := by
  induction h with
  | nil => exact h'
  | cons fits _ ih => exact .cons fits (ih h')

theorem exists_fits (h : Answers settings v answers after) :
    ∀ a ∈ answers, ∀ p, a.programme? = some p → ∃ v, Answer.Fits settings v a.announcement p := by
  induction h with
  | nil => exact fun a ha => absurd ha List.not_mem_nil
  | cons fits _ ih =>
    intro a ha p hp
    rcases List.mem_cons.mp ha with rfl | ha
    · exact ⟨_, fits p hp⟩
    · exact ih a ha p hp

/-- An answer is to the event that was announced. -/
theorem announcement_eq (h : Answers settings v answers after) {a : Answer} (ha : a ∈ answers)
    {p : Programme} (hp : a.programme? = some p) : p.announcement = a.announcement := by
  obtain ⟨v, fits⟩ := h.exists_fits a ha p hp
  exact fits.announcement

theorem isUpdate_eq_false (h : Answers settings v answers after)
    (unwanted : settings.emitUpdates = false) :
    ∀ p ∈ Answer.programmes answers, p.isUpdate = false := by
  intro p hmem
  obtain ⟨a, ha, hp⟩ := List.mem_filterMap.mp hmem
  obtain ⟨v, fits⟩ := h.exists_fits a ha p hp
  rcases fits.admission with ⟨_, fresh⟩ | ⟨_, _, wanted⟩
  · exact fresh
  · rw [unwanted] at wanted
    cases wanted

/-- Only updates are answers to an event that has a version stored, and only if updates are wanted.
By the direct policy they are newer than that version. -/
theorem of_known (h : Answers settings v answers after) {key : EventKey} {stored : Int}
    (known : v.version? key = some stored) :
    ∀ a ∈ answers, ∀ p, a.programme? = some p → p.key = key →
      p.isUpdate = true ∧ settings.emitUpdates = true ∧
        (settings.versionPolicy = .direct → stored < p.version) := by
  -- a version stored is only ever replaced by a greater one
  induction h generalizing stored with
  | nil => exact fun a ha => absurd ha List.not_mem_nil
  | cons fits _ ih =>
    rename_i v after a p? rest _
    intro b hb p hp hkey
    rcases List.mem_cons.mp hb with rfl | hb
    · have hfits := fits p hp
      have hversion : p.version = a.version := congrArg Announcement.version hfits.announcement
      have hsame : a.key = key := (congrArg Announcement.key hfits.announcement).symm.trans hkey
      subst hsame
      rcases Versions.receive_cases settings.versionPolicy v a.key a.version with
        ⟨hnone, _⟩ | ⟨m, hm, ⟨newer, hr⟩ | ⟨_, hr⟩⟩
      · exact absurd (hnone.symm.trans known) (by simp)
      · cases hm.symm.trans known
        rcases hfits.admission with ⟨fresh, _⟩ | ⟨_, update, wanted⟩
        · rw [hr] at fresh
          cases fresh
        · refine ⟨update, wanted, fun direct => ?_⟩
          rw [direct] at newer
          rw [hversion]
          exact Versions.supersedes_direct.mp newer
      · rcases hfits.admission with ⟨fresh, _⟩ | ⟨updated, _⟩
        · rw [hr] at fresh
          cases fresh
        · rw [hr] at updated
          cases updated
    · obtain ⟨m, hm, hle⟩ :=
        Versions.version?_receive known settings.versionPolicy a.key a.version
      obtain ⟨update, wanted, newer⟩ := ih hm b hb p hp hkey
      exact ⟨update, wanted, fun direct => Int.lt_of_le_of_lt (hle direct) (newer direct)⟩

/-- An announcement that follows another of the same event is answered with an update or not at all.
By the direct policy an update is newer than all that went before. -/
theorem pairwise (h : Answers settings v answers after) :
    answers.Pairwise fun earlier later => ∀ p, later.programme? = some p →
      p.key = earlier.announcement.key → p.isUpdate = true ∧ settings.emitUpdates = true ∧
        (settings.versionPolicy = .direct → earlier.announcement.version < p.version) := by
  induction h with
  | nil => exact .nil
  | cons _ tail ih =>
    rename_i v after a p? rest _
    refine .cons (fun b hb p hp hkey => ?_) ih
    obtain ⟨m, hm, hle⟩ := Versions.version?_receive_self settings.versionPolicy v a.key a.version
    obtain ⟨update, wanted, newer⟩ := tail.of_known hm b hb p hp hkey
    exact ⟨update, wanted, fun direct => Int.lt_of_le_of_lt (hle direct) (newer direct)⟩

/-- A programme that follows another of the same event is an update. By the direct policy it is
newer. -/
theorem pairwise_programmes (h : Answers settings v answers after) :
    (Answer.programmes answers).Pairwise fun p q => p.key = q.key →
      q.isUpdate = true ∧ settings.emitUpdates = true ∧
        (settings.versionPolicy = .direct → p.version < q.version) := by
  refine List.Pairwise.filterMap _ ?_ (List.Pairwise.and_mem.mp h.pairwise)
  rintro a b ⟨ha, -, hab⟩ p hp q hq hkey
  rw [← h.announcement_eq ha hp] at hab
  exact hab q hq hkey.symm

end Answers

/-! ### The answers of a run -/

namespace Decoder

variable {settings : Settings} {now : Instant} {info : EventSection}

theorem record_fits {state : DecoderState} {r : EventRecord} {p : Programme}
    (h : (record settings now info state r).result = .ok (some p)) :
    Answer.Fits settings state.versions ⟨keyOf info r, info.version⟩ p := by
  obtain ⟨isUpdate, gives, admission⟩ := record_eq_some h
  refine ⟨?_, ?_⟩
  · rw [Programme.announcement, gives.key_eq, gives.version_eq]
  · rwa [gives.isUpdate_eq]

theorem records_answers {state : DecoderState} {rs : List EventRecord} {ps : List Programme}
    (h : (records settings now info state rs).result = .ok ps) :
    ∃ answers, answers.map (·.announcement) =
        rs.map (fun r => ⟨keyOf info r, info.version⟩) ∧
      ps = Answer.programmes answers ∧
      Answers settings state.versions answers
        (records settings now info state rs).state.versions := by
  induction rs generalizing state ps with
  | nil =>
    cases h
    exact ⟨[], rfl, rfl, .nil _⟩
  | cons r rest ih =>
    rcases records_cases settings now info state r rest with
      ⟨e, -, hall⟩ | ⟨p?, hfirst, hstate, hresult⟩
    · rw [hall] at h
      cases h
    · obtain ⟨later, hlater, rfl⟩ := (hresult ps).mp h
      obtain ⟨answers, hannounced, hprogrammes, hanswers⟩ := ih hlater
      rw [versions_record] at hanswers
      rw [hstate]
      refine ⟨⟨⟨keyOf info r, info.version⟩, p?⟩ :: answers, ?_, ?_, .cons ?_ hanswers⟩
      · rw [List.map_cons, List.map_cons, hannounced]
      · rw [hprogrammes]
        cases p? <;> rfl
      · rintro p rfl
        exact record_fits hfirst

theorem decode_answers {state : DecoderState} {ps : List Programme}
    (h : (decode settings now state info).result = .ok ps) :
    ∃ answers, answers.map (·.announcement) = info.announcements ∧
      ps = Answer.programmes answers ∧
      Answers settings state.versions answers (decode settings now state info).state.versions := by
  obtain ⟨hrecords, hversions⟩ := decode_eq_ok h
  rw [hversions]
  exact records_answers hrecords

end Decoder

namespace Grabber

variable {settings : Settings} {now : Instant}

theorem announcements_eq (settings : Settings) (raw : RawSection) :
    announcements settings raw =
      ((settings.events? raw).map EventSection.announcements).getD [] := by
  unfold announcements Settings.events?
  split
  · cases EventSection.ofRaw raw <;> rfl
  · rfl

/-- A section that the run gets over answers all that it announces. -/
theorem handle_answers {state : GrabState} {raw : RawSection}
    (h : (handle settings now state raw).fault = none) :
    ∃ answers, answers.map (·.announcement) = announcements settings raw ∧
      programmesOf (handle settings now state raw).events = Answer.programmes answers ∧
      Answers settings state.decoder.versions answers
        (handle settings now state raw).state.decoder.versions := by
  rw [announcements_eq]
  cases hinfo : settings.events? raw with
  | none =>
    obtain ⟨next, hhandle, hversions⟩ := handle_of_none now state hinfo
    rw [hhandle]
    refine ⟨[], rfl, rfl, ?_⟩
    rw [hversions]
    exact .nil _
  | some info =>
    have hhandle := handle_of_some now state hinfo
    dsimp only at hhandle
    cases hdecode : (Decoder.decode settings now (seen state).decoder info).result with
    | error e =>
      rw [hhandle, hdecode] at h
      cases h
    | ok ps =>
      rw [hdecode] at hhandle
      rw [hhandle]
      obtain ⟨answers, hannounced, hps, hanswers⟩ := Decoder.decode_answers hdecode
      exact ⟨answers, hannounced, (programmesOf_section ps _ _).trans hps, hanswers⟩

/-- Sections answer what they announce, in order, up to one that stops the run. -/
theorem handleSections_answers (settings : Settings) (now : Instant) (state : GrabState)
    (sections : List RawSection) :
    ∃ answers after, answers.map (·.announcement) <+: sections.flatMap (announcements settings) ∧
      ((∀ e, (handleSections settings now state sections).fault ≠ some (.decoder e)) →
        answers.map (·.announcement) = sections.flatMap (announcements settings)) ∧
      programmesOf (handleSections settings now state sections).events =
        Answer.programmes answers ∧
      Answers settings state.decoder.versions answers after := by
  induction sections generalizing state with
  | nil => exact ⟨[], _, List.prefix_rfl, fun _ => rfl, rfl, .nil _⟩
  | cons s rest ih =>
    cases hfault : (handle settings now state s).fault with
    | some fault =>
      obtain ⟨⟨e, rfl⟩, hevents⟩ := handle_of_fault hfault
      simp only [handleSections, hfault, hevents]
      exact ⟨[], _, List.nil_prefix, fun h => absurd rfl (h e), rfl, .nil _⟩
    | none =>
      obtain ⟨first, hfirst, hprogrammes, hanswers⟩ := handle_answers hfault
      obtain ⟨later, after, hprefix, hwhole, hprogrammes', hanswers'⟩ :=
        ih (handle settings now state s).state
      rw [handleSections_cons hfault]
      refine ⟨first ++ later, after, ?_, fun h => ?_, ?_, hanswers.append hanswers'⟩
      · rw [List.map_append, List.flatMap_cons, hfirst]
        exact (List.prefix_append_right_inj _).mpr hprefix
      · rw [List.map_append, List.flatMap_cons, hfirst, hwhole h]
      · rw [programmesOf_append, hprogrammes, hprogrammes']
        exact List.filterMap_append.symm

end Grabber

/-- What a run answers the events that it comes by with. Only the first announcement of an event is
answered with a programme that is no update. Without updates there is at most one programme for an
event; with updates and the direct policy the programmes of one event have ever greater versions. -/
theorem run_answers {σ : Type} [ByteSource σ] (settings : Settings) (now : Instant) (source : σ) :
    let run := Grabber.run settings now source
    let announced := (readSections source settings.bufferCapacity).sightings.flatMap fun s =>
      Grabber.announcements settings s.found
    (∃ answers : List Answer, answers.map (·.announcement) <+: announced ∧
      ((∀ e, run.fault ≠ some (.decoder e)) → answers.map (·.announcement) = announced) ∧
      run.programmes = Answer.programmes answers ∧
      (∀ a ∈ answers, ∀ p, a.programme? = some p → p.announcement = a.announcement) ∧
      answers.Pairwise fun earlier later => ∀ p, later.programme? = some p →
        p.isUpdate = false → earlier.announcement.key ≠ p.key) ∧
    (settings.emitUpdates = false →
      (run.programmes.map (·.key)).Nodup ∧ ∀ p ∈ run.programmes, p.isUpdate = false) ∧
    (settings.emitUpdates = true → settings.versionPolicy = .direct →
      run.programmes.Pairwise fun p q => p.key = q.key → p.version < q.version) := by
  intro run announced
  obtain ⟨hevents, -, hfault⟩ := Grabber.run_handled settings now source
  obtain ⟨answers, after, hprefix, hwhole, hprogrammes, hanswers⟩ :=
    Grabber.handleSections_answers settings now .initial
      ((readSections source settings.bufferCapacity).sightings.map (·.found))
  rw [List.flatMap_map] at hprefix hwhole
  rw [← hevents] at hprogrammes
  have hrun : run.programmes = Answer.programmes answers := hprogrammes
  have hpairs := hanswers.pairwise_programmes
  rw [← hrun] at hpairs
  refine ⟨⟨answers, hprefix, fun h => hwhole fun e hstopped => h e ?_, hrun, ?_, ?_⟩, ?_, ?_⟩
  · rw [hstopped] at hfault
    exact hfault
  · exact fun a ha p hp => hanswers.announcement_eq ha hp
  · refine hanswers.pairwise.imp fun h p hp fresh hkey => ?_
    rw [(h p hp hkey.symm).1] at fresh
    cases fresh
  · intro unwanted
    refine ⟨?_, hrun ▸ hanswers.isUpdate_eq_false unwanted⟩
    refine List.pairwise_map.mpr (hpairs.imp fun h hkey => ?_)
    rw [unwanted] at h
    cases (h hkey).2.1
  · exact fun _ direct => hpairs.imp fun h hkey => (h hkey).2.2 direct

end BroadcastGuide
