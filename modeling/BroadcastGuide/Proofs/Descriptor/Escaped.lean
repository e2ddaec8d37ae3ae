import BroadcastGuide.Descriptor.Projection
import BroadcastGuide.Proofs.Failure
import BroadcastGuide.Proofs.Text.Entities

/-! What descriptors put into a programme is escaped: texts for character data, languages for
quoted attributes. -/

namespace BroadcastGuide

open Text (Avoids brackets delimiters CharacterTable Tallied avoids_normalize avoids_language)

namespace Descriptor

def language? : Descriptor → Option String
  | shortEvent d => some d.language
  | extendedEvent d => some d.language
  | component d => some d.language
  | _ => none

def IsEscaped (d : Descriptor) : Prop := ∀ language ∈ d.language?, Avoids delimiters language

theorem map_isEscaped {α : Type} {read : Except DecodeError α} {f : α → Descriptor} {d : Descriptor}
    (h : read.map f = .ok d) (hf : ∀ a, read = .ok a → (f a).IsEscaped) : d.IsEscaped := by
  cases hread : read with
  | error e =>
    rw [hread] at h
    cases h
  | ok a =>
    rw [hread] at h
    cases h
    exact hf a hread

theorem shortEvent_isEscaped {payload : Octets} {d : ShortEvent}
    (h : ShortEvent.ofPayload payload = .ok d) : (shortEvent d).IsEscaped := by
  obtain ⟨⟨language, u⟩, _, h⟩ := exists_of_bind_eq_ok h
  obtain ⟨⟨name, u⟩, _, h⟩ := exists_of_bind_eq_ok h
  obtain ⟨⟨text, u⟩, _, h⟩ := exists_of_bind_eq_ok h
  cases h
  rintro _ ⟨⟩
  exact avoids_language language

theorem extendedEvent_isEscaped {payload : Octets} {d : ExtendedEvent}
    (h : ExtendedEvent.ofPayload payload = .ok d) : (extendedEvent d).IsEscaped := by
  obtain ⟨⟨head, u⟩, _, h⟩ := exists_of_bind_eq_ok h
  obtain ⟨⟨block, u⟩, _, h⟩ := exists_of_bind_eq_ok h
  obtain ⟨items, _, h⟩ := exists_of_bind_eq_ok h
  obtain ⟨⟨text, u⟩, _, h⟩ := exists_of_bind_eq_ok h
  cases h
  rintro _ ⟨⟩
  exact avoids_language _

theorem component_isEscaped {payload : Octets} {d : Component}
    (h : Component.ofPayload payload = .ok d) : (component d).IsEscaped := by
  obtain ⟨⟨head, u⟩, _, h⟩ := exists_of_bind_eq_ok h
  cases h
  rintro _ ⟨⟩
  exact avoids_language _

theorem isEscaped_of_language?_eq_none {d : Descriptor} (h : d.language? = none) : d.IsEscaped := by
  rw [IsEscaped, h]
  exact fun _ hmem => nomatch hmem

/-- Whatever bytes a language is read from, it stays inside its quotes. -/
theorem ofPayload_isEscaped {tag : UInt8} {payload : Octets} {d : Descriptor}
    (h : ofPayload tag payload = .ok d) : d.IsEscaped := by
  unfold ofPayload at h
  split at h
  · exact map_isEscaped h fun _ => shortEvent_isEscaped
  split at h
  · exact map_isEscaped h fun _ => extendedEvent_isEscaped
  split at h
  · exact map_isEscaped h fun _ => component_isEscaped
  split at h
  · exact map_isEscaped h fun _ _ => isEscaped_of_language?_eq_none rfl
  split at h
  · exact map_isEscaped h fun _ _ => isEscaped_of_language?_eq_none rfl
  split at h
  · exact map_isEscaped h fun _ _ => isEscaped_of_language?_eq_none rfl
  split at h
  · exact map_isEscaped h fun _ _ => isEscaped_of_language?_eq_none rfl
  · cases h
    exact isEscaped_of_language?_eq_none rfl

end Descriptor

namespace DescriptorLoop

theorem ofBlocks_isEscaped (blocks : List DescriptorBlock) :
    ∀ d ∈ (ofBlocks blocks).descriptors, d.IsEscaped := by
  induction blocks with
  | nil => exact fun _ hd => absurd hd List.not_mem_nil
  | cons b rest ih =>
    rw [ofBlocks]
    split
    · rename_i d hd
      exact List.forall_mem_cons.mpr ⟨Descriptor.ofPayload_isEscaped hd, ih⟩
    · exact ih

theorem ofBytes_isEscaped {loop : Octets} {read : DescriptorLoop} (h : ofBytes loop = .ok read) :
    ∀ d ∈ read.descriptors, d.IsEscaped := by
  simp only [ofBytes] at h
  split at h
  · cases h
  · cases h
    exact ofBlocks_isEscaped _

end DescriptorLoop

/-! ### Texts -/

structure LangText.IsEscaped (t : LangText) : Prop where
  language : Avoids delimiters t.language
  text : Avoids brackets t.text

namespace Projection

variable {table : CharacterTable}

theorem langTexts_isEscaped {fields : List (String × Octets)}
    (h : ∀ field ∈ fields, Avoids delimiters field.1) :
    ∀ t ∈ (langTexts table fields).value, t.IsEscaped := by
  induction fields with
  | nil => exact fun _ ht => absurd ht List.not_mem_nil
  | cons field rest ih =>
    obtain ⟨language, bytes⟩ := field
    obtain ⟨hlanguage, hrest⟩ := List.forall_mem_cons.mp h
    rw [langTexts]
    split
    · exact ih hrest
    · simp only [Tallied.value_bind, Tallied.value_pure]
      split
      · exact ih hrest
      · exact List.forall_mem_cons.mpr ⟨⟨hlanguage, avoids_normalize table bytes⟩, ih hrest⟩

theorem crids_isEscaped (entries : List CridEntry) :
    ∀ c ∈ (crids table entries).value, Avoids brackets c.value := by
  induction entries with
  | nil => exact fun _ hc => absurd hc List.not_mem_nil
  | cons entry rest ih =>
    obtain ⟨kind, location⟩ := entry
    cases location with
    | carried value =>
      rw [crids]
      simp only [Tallied.value_bind, Tallied.value_pure]
      exact List.forall_mem_cons.mpr ⟨avoids_normalize table value, ih⟩
    | elsewhere location reference =>
      rw [crids]
      · exact ih
      · nofun

end Projection

namespace ExtendedEvent

theorem avoids_renderItems (table : CharacterTable) (items : List EventItem) :
    Avoids brackets (renderItems table items).value := by
  induction items with
  | nil => exact Avoids.empty
  | cons item rest ih =>
    have hcolon : Avoids brackets ": " := by decide
    have hsemicolon : Avoids brackets "; " := by decide
    rw [renderItems]
    simp only [renderItem, Tallied.value_bind, Tallied.value_pure]
    exact (((avoids_normalize table _).append hcolon).append (avoids_normalize table _)).append
      hsemicolon |>.append ih

theorem avoids_render (table : CharacterTable) (d : ExtendedEvent) :
    Avoids brackets (d.render table).value := by
  have hitems := avoids_renderItems table d.items
  rw [render]
  simp only [Tallied.value_bind]
  split
  · exact hitems
  · exact hitems.append (avoids_normalize table d.text)

end ExtendedEvent

structure DescriptionRun.IsEscaped (r : DescriptionRun) : Prop where
  language : ∀ language ∈ r.language, Avoids delimiters language
  parts : ∀ part ∈ r.parts, Avoids brackets part.2

namespace Assembler

variable {table : CharacterTable} {a : Assembler} {d : ExtendedEvent} {text : String}

structure IsEscaped (a : Assembler) : Prop where
  run : ∀ r ∈ a.run, r.IsEscaped
  completed : ∀ t ∈ a.completed, t.IsEscaped

theorem empty_isEscaped : empty.IsEscaped where
  run := nofun
  completed := nofun

theorem runFor_isEscaped (h : a.IsEscaped) (d : ExtendedEvent) : (a.runFor d).IsEscaped := by
  have hfresh : DescriptionRun.IsEscaped ⟨d.last, none, []⟩ := ⟨nofun, nofun⟩
  unfold runFor
  split
  · exact hfresh
  · split
    · exact hfresh
    · exact h.run _ ‹_›

theorem extend_isEscaped {r : DescriptionRun} (h : r.IsEscaped) (hd : Avoids delimiters d.language)
    (htext : Avoids brackets text) : (extend r d text).IsEscaped where
  language := by
    unfold extend
    dsimp only
    split
    · rintro _ ⟨⟩
      exact hd
    · exact h.language
  parts := List.forall_mem_cons.mpr ⟨htext, h.parts⟩

theorem avoids_joined {r : DescriptionRun} (h : r.IsEscaped) : Avoids brackets (joined r) := by
  refine Avoids.join fun s hs => ?_
  obtain ⟨n, _, rfl⟩ := List.mem_map.mp hs
  cases hpart : r.parts.lookup n with
  | none => exact Avoids.empty
  | some text =>
    obtain ⟨before, after, hparts, -⟩ := List.lookup_eq_some_iff.mp hpart
    have hmem : (n, text) ∈ r.parts := hparts ▸ List.mem_append_right _ List.mem_cons_self
    exact h.parts _ hmem

theorem addText_isEscaped (h : a.IsEscaped) (hd : Avoids delimiters d.language)
    (htext : Avoids brackets text) : (a.addText d text).1.IsEscaped := by
  have hrun := extend_isEscaped (runFor_isEscaped h d) hd htext
  have hlanguage : Avoids delimiters ((extend (a.runFor d) d text).language.getD "") := by
    cases hl : (extend (a.runFor d) d text).language with
    | none => exact Avoids.empty
    | some language => exact hrun.language language hl
  simp only [addText]
  split
  · exact ⟨fun r hr => by cases hr; exact hrun, h.completed⟩
  · refine ⟨nofun, fun t ht => ?_⟩
    rcases List.mem_append.mp ht with ht | ht
    · exact h.completed t ht
    · cases List.mem_singleton.mp ht
      exact ⟨hlanguage, avoids_joined hrun⟩

theorem add_isEscaped (h : a.IsEscaped) (hd : Avoids delimiters d.language) :
    (a.add table d).value.1.IsEscaped := by
  unfold add
  split
  · exact addText_isEscaped h hd (d.avoids_render table)
  · exact h

theorem addAll_isEscaped (h : a.IsEscaped) {ds : List ExtendedEvent}
    (hds : ∀ d ∈ ds, Avoids delimiters d.language) : (a.addAll table ds).value.IsEscaped := by
  induction ds generalizing a with
  | nil => exact h
  | cons d rest ih =>
    obtain ⟨hd, hrest⟩ := List.forall_mem_cons.mp hds
    exact ih (add_isEscaped h hd) hrest

end Assembler

/-! ### Programmes -/

/-- A programme whose texts and languages are fit for markup as they are. -/
structure Programme.IsEscaped (p : Programme) : Prop where
  titles : ∀ t ∈ p.titles, t.IsEscaped
  subtitles : ∀ t ∈ p.subtitles, t.IsEscaped
  descriptions : ∀ t ∈ p.descriptions, t.IsEscaped
  language : ∀ language ∈ p.language, Avoids brackets language
  subtitleLanguages : ∀ language ∈ p.subtitleLanguages, Avoids brackets language
  crids : ∀ c ∈ p.crids, Avoids brackets c.value

namespace Projection

variable {table : CharacterTable} {ds : List Descriptor}

theorem filterMap_language {α : Type} {select : Descriptor → Option α} {language : α → String}
    (hselect : ∀ d a, select d = some a → d.language? = some (language a))
    (h : ∀ d ∈ ds, d.IsEscaped) : ∀ a ∈ ds.filterMap select, Avoids delimiters (language a) := by
  intro a ha
  obtain ⟨d, hd, hda⟩ := List.mem_filterMap.mp ha
  exact h d hd _ (hselect d a hda)

theorem shortEvents_language (h : ∀ d ∈ ds, d.IsEscaped) :
    ∀ d ∈ shortEvents ds, Avoids delimiters d.language := by
  refine filterMap_language (fun d a hda => ?_) h
  split at hda <;> cases hda
  rfl

theorem extendedEvents_language (h : ∀ d ∈ ds, d.IsEscaped) :
    ∀ d ∈ extendedEvents ds, Avoids delimiters d.language := by
  refine filterMap_language (fun d a hda => ?_) h
  split at hda <;> cases hda
  rfl

theorem componentsOf_language (h : ∀ d ∈ ds, d.IsEscaped) (content : Nat) :
    ∀ c ∈ componentsOf content ds, Avoids brackets c.language := by
  have hall : ∀ c ∈ components ds, Avoids delimiters c.language := by
    refine filterMap_language (fun d a hda => ?_) h
    split at hda <;> cases hda
    rfl
  exact fun c hc => (hall c (List.mem_filter.mp hc).1).of_delimiters

/-- Filling a programme leaves it escaped. -/
theorem project_isEscaped {p : Programme} (hp : p.IsEscaped) (h : ∀ d ∈ ds, d.IsEscaped) :
    (project table ds p).value.IsEscaped := by
  have hfields (field : ShortEvent → Octets) :
      ∀ pair ∈ (shortEvents ds).map fun d => (d.language, field d), Avoids delimiters pair.1 := by
    intro pair hpair
    obtain ⟨d, hd, rfl⟩ := List.mem_map.mp hpair
    exact shortEvents_language h d hd
  have hdescriptions : (Assembler.empty.addAll table (extendedEvents ds)).value.IsEscaped :=
    Assembler.addAll_isEscaped Assembler.empty_isEscaped (extendedEvents_language h)
  have hteletext : ∀ language ∈ (componentsOf teletext ds).map (·.language),
      Avoids brackets language := by
    intro language hlanguage
    obtain ⟨c, hc, rfl⟩ := List.mem_map.mp hlanguage
    exact componentsOf_language h teletext c hc
  have haudio : ∀ language ∈ p.language.or ((componentsOf audio ds).head?.map (·.language)),
      Avoids brackets language := by
    intro language hlanguage
    rcases Option.or_eq_some_iff.mp hlanguage with hown | ⟨_, hfirst⟩
    · exact hp.language language hown
    · obtain ⟨c, hc, rfl⟩ := Option.map_eq_some_iff.mp hfirst
      exact componentsOf_language h audio c (List.mem_of_head? hc)
  simp only [project, Tallied.value_bind, Tallied.value_pure]
  constructor
  · exact List.forall_mem_append.mpr ⟨hp.titles, langTexts_isEscaped (hfields _)⟩
  · exact List.forall_mem_append.mpr ⟨hp.subtitles, langTexts_isEscaped (hfields _)⟩
  · exact List.forall_mem_append.mpr ⟨hp.descriptions, hdescriptions.completed⟩
  · exact haudio
  · exact List.forall_mem_append.mpr ⟨hp.subtitleLanguages, hteletext⟩
  · exact List.forall_mem_append.mpr ⟨hp.crids, crids_isEscaped _⟩

end Projection

namespace Programme

/-- A programme that has all its contents from the bytes of descriptor loops. -/
inductive Filled : Programme → Prop
  | blank (serviceId eventId : Int) (start stop : Calendar.Instant) (version runningStatus : Int)
      (freeCaMode isUpdate : Bool) :
      Filled
        { blank serviceId eventId start stop with version, runningStatus, freeCaMode, isUpdate }
  | project {p : Programme} {loop : Octets} {read : DescriptorLoop} (table : CharacterTable) :
      Filled p → DescriptorLoop.ofBytes loop = .ok read →
        Filled (Projection.project table read.descriptors p).value

theorem Filled.isEscaped {p : Programme} (h : p.Filled) : p.IsEscaped := by
  induction h with
  | blank => exact ⟨nofun, nofun, nofun, nofun, nofun, nofun⟩
  | project table _ hread ih =>
    exact Projection.project_isEscaped ih (DescriptorLoop.ofBytes_isEscaped hread)

end Programme

end BroadcastGuide
