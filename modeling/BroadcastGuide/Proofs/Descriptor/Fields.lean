import BroadcastGuide.Descriptor.Projection
import Mathlib.Data.List.TakeWhile

/-! What a projection tallies is what the fields tally that it normalizes, one after another. -/

namespace BroadcastGuide

open Text (CharacterTable)

namespace Text

namespace Tally

theorem zero_add (a : Tally) : 0 + a = a := by simp [ext_iff]

theorem add_zero (a : Tally) : a + 0 = a := by simp [ext_iff]

theorem add_assoc (a b c : Tally) : a + b + c = a + (b + c) := by simp [ext_iff, Nat.add_assoc]

end Tally

namespace CharacterTable

variable (table : CharacterTable)

def tallied (fields : List Octets) : Tally := (table.codec.tallyFields fields).1

theorem tallied_nil : table.tallied [] = 0 := rfl

theorem tallied_cons (field : Octets) (rest : List Octets) :
    table.tallied (field :: rest) = (normalize table field).tally + table.tallied rest := by
  simp only [tallied, Codec.tallyFields, table.codec_isTotal.refusal?_eq_none, table.table_codec]

theorem tallied_append (fields others : List Octets) :
    table.tallied (fields ++ others) = table.tallied fields + table.tallied others := by
  induction fields with
  | nil => rw [List.nil_append, tallied_nil, Tally.zero_add]
  | cons field rest ih =>
    rw [List.cons_append, tallied_cons, tallied_cons, ih, Tally.add_assoc]

theorem tallied_singleton (field : Octets) :
    table.tallied [field] = (normalize table field).tally := by
  rw [tallied_cons, tallied_nil, Tally.add_zero]

end CharacterTable

/-- Fields that a codec does not refuse tally what they do in its table. -/
theorem Codec.tallyFields_eq {codec : Codec} {fields : List Octets}
    (h : (codec.tallyFields fields).2 = none) :
    (codec.tallyFields fields).1 = codec.table.tallied fields := by
  induction fields with
  | nil => rfl
  | cons field rest ih =>
    rw [CharacterTable.tallied_cons]
    unfold tallyFields at h ⊢
    cases hfield : codec.refusal? field with
    | some fault =>
      rw [hfield] at h
      cases h
    | none =>
      rw [hfield] at h
      exact congrArg ((normalize codec.table field).tally + ·) (ih h)

/-- What a codec refuses of fields is one of them. -/
theorem Codec.exists_refused {codec : Codec} {fields : List Octets} {fault : CodecFault}
    (h : (codec.tallyFields fields).2 = some fault) :
    ∃ field ∈ fields, codec.refusal? field = some fault := by
  induction fields with
  | nil => cases h
  | cons field rest ih =>
    unfold tallyFields at h
    cases hfield : codec.refusal? field with
    | some other =>
      rw [hfield] at h
      cases h
      exact ⟨field, List.mem_cons_self, hfield⟩
    | none =>
      rw [hfield] at h
      obtain ⟨later, hlater, hrefused⟩ := ih h
      exact ⟨later, List.mem_cons_of_mem _ hlater, hrefused⟩

theorem Codec.refusal?_of_tallyFields {codec : Codec} {fields : List Octets}
    (h : (codec.tallyFields fields).2 = none) : ∀ field ∈ fields, codec.refusal? field = none := by
  induction fields with
  | nil => exact fun field hfield => absurd hfield List.not_mem_nil
  | cons field rest ih =>
    unfold tallyFields at h
    cases hfield : codec.refusal? field with
    | some fault =>
      rw [hfield] at h
      cases h
    | none =>
      rw [hfield] at h
      exact List.forall_mem_cons.mpr ⟨hfield, ih h⟩

theorem Codec.IsTotal.tallyFields_eq {codec : Codec} (h : codec.IsTotal) (fields : List Octets) :
    codec.tallyFields fields = (codec.table.tallied fields, none) := by
  have hnone : (codec.tallyFields fields).2 = none := by
    induction fields with
    | nil => rfl
    | cons field rest ih =>
      simp only [tallyFields, h.refusal?_eq_none]
      exact ih
  exact Prod.ext (Codec.tallyFields_eq hnone) hnone

end Text

namespace ExtendedEvent

variable (table : CharacterTable)

theorem tally_renderItem (item : EventItem) :
    (renderItem table item).tally = table.tallied [item.label, item.value] := by
  simp [renderItem, CharacterTable.tallied_cons, CharacterTable.tallied_nil, Text.Tally.add_zero]

theorem tally_renderItems (items : List EventItem) :
    (renderItems table items).tally =
      table.tallied (items.flatMap fun item => [item.label, item.value]) := by
  induction items with
  | nil => rfl
  | cons item rest ih =>
    rw [List.flatMap_cons, table.tallied_append, ← ih, ← tally_renderItem]
    simp [renderItems, Text.Tally.add_zero]

theorem tally_render (d : ExtendedEvent) : (d.render table).tally = table.tallied d.fields := by
  rw [fields, table.tallied_append, ← tally_renderItems, render]
  cases d.text.isEmpty with
  | true => simp [CharacterTable.tallied_nil]
  | false => simp [CharacterTable.tallied_singleton, Text.Tally.add_zero]

end ExtendedEvent

theorem Assembler.tally_addAll (table : CharacterTable) (a : Assembler) (ds : List ExtendedEvent) :
    (a.addAll table ds).tally =
      table.tallied ((ds.filter Assembler.accepts).flatMap (·.fields)) := by
  induction ds generalizing a with
  | nil => rfl
  | cons d rest ih =>
    simp only [addAll, Text.Tallied.tally_bind, ih]
    unfold add
    by_cases h : accepts d
    · rw [List.filter_cons_of_pos h, List.flatMap_cons, table.tallied_append, if_pos h]
      simp [ExtendedEvent.tally_render, Text.Tally.add_zero]
    · rw [List.filter_cons_of_neg h, if_neg h]
      simp [Text.Tally.zero_add]

namespace Projection

variable (table : CharacterTable)

theorem tally_langTexts (texts : List (String × Octets)) :
    (langTexts table texts).tally =
      table.tallied ((texts.map (·.2)).filter (!·.isEmpty)) := by
  fun_induction langTexts table texts with
  | case1 => rfl
  | case2 language field rest empty ih => simp [ih, empty]
  | case3 language field rest full ih =>
    simp [ih, full, CharacterTable.tallied_cons, Text.Tally.add_zero]

theorem tally_crids (entries : List CridEntry) :
    (crids table entries).tally = table.tallied
      (entries.filterMap fun | ⟨_, .carried value⟩ => some value | _ => none) := by
  fun_induction crids table entries with
  | case1 => rfl
  | case2 kind value rest ih => simp [ih, CharacterTable.tallied_cons, Text.Tally.add_zero]
  | case3 entry rest other ih =>
    obtain ⟨kind, location⟩ := entry
    cases location with
    | carried value => exact absurd rfl (other kind value)
    | elsewhere => exact ih

/-- What filling a programme tallies is what its fields tally. -/
theorem tally_project (ds : List Descriptor) (p : Programme) :
    (project table ds p).tally = table.tallied (fields ds) := by
  simp only [project, Text.Tallied.tally_bind, Text.Tallied.tally_pure, tally_langTexts,
    Assembler.tally_addAll, tally_crids, fields, table.tallied_append, List.map_map,
    Text.Tally.add_zero, Text.Tally.add_assoc]
  rfl

theorem mem_fields_of_name {ds : List Descriptor} {d : ShortEvent} (h : .shortEvent d ∈ ds)
    (filled : d.name ≠ []) : d.name ∈ fields ds := by
  have hmem : d ∈ shortEvents ds := List.mem_filterMap.mpr ⟨.shortEvent d, h, rfl⟩
  have hname : d.name ∈ ((shortEvents ds).map (·.name)).filter (!·.isEmpty) :=
    List.mem_filter.mpr ⟨List.mem_map_of_mem hmem, by simpa using filled⟩
  simp only [fields, List.append_assoc]
  exact List.mem_append_left _ hname

/-- The pass for titles comes to all descriptors if the codec refuses none of their fields. -/
theorem reached_eq {codec : Text.Codec} {ds : List Descriptor}
    (h : (codec.tallyFields (fields ds)).2 = none) : reached codec ds = ds := by
  refine List.takeWhile_eq_self_iff.mpr fun d hd => ?_
  cases d with
  | shortEvent d =>
    refine Option.isNone_iff_eq_none.mpr ?_
    by_cases hname : d.name = []
    · rw [hname]
      rfl
    · exact Text.Codec.refusal?_of_tallyFields h d.name (mem_fields_of_name hd hname)
  | _ => rfl

end Projection

end BroadcastGuide
