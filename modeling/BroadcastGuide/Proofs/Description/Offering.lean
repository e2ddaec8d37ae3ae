import BroadcastGuide.Proofs.Description
import Mathlib.Data.List.Induction

/-! The fragments of a description complete it with the last of their numbers, in whatever order
they are offered. -/

namespace BroadcastGuide.Assembler

open Text (CharacterTable)

/-- All fragments of a description by number, and what is offered: the same fragments in any order,
and between them any that do not count. -/
structure Offering where
  last : Nat
  fragments : List ExtendedEvent
  offered : List ExtendedEvent
  numbers_eq : fragments.map (·.number) = List.range (last + 1)
  last_eq : ∀ d ∈ fragments, d.last = last
  perm : (offered.filter accepts).Perm fragments

variable {table : CharacterTable} {a : Assembler} {d : ExtendedEvent} {start : List LangText}
  {before after held : List ExtendedEvent}

namespace Offering

variable (o : Offering)

theorem fragments_ne_nil : o.fragments ≠ [] := by
  intro hnil
  have hnumbers := o.numbers_eq
  rw [hnil, List.range_succ] at hnumbers
  simp at hnumbers

def whole (table : CharacterTable) : LangText :=
  ⟨(o.fragments.head o.fragments_ne_nil).language,
    String.join (o.fragments.map (·.rendering table))⟩

def missing (before : List ExtendedEvent) : List Nat :=
  (List.range (o.last + 1)).filter fun n => !(before.filter accepts).any (·.number == n)

/-- A fragment that counts, under the one number still to come. -/
def IsLastMissing (before : List ExtendedEvent) (d : ExtendedEvent) : Prop :=
  accepts d ∧ o.missing before = [d.number]

theorem numbers_perm : ((o.offered.filter accepts).map (·.number)).Perm (List.range (o.last + 1)) :=
  o.numbers_eq ▸ o.perm.map _

theorem isRun : IsRun o.last (o.offered.filter accepts) where
  last_eq d hd := o.last_eq d (o.perm.mem_iff.mp hd)
  number_le d hd := by
    have hmem := o.numbers_perm.mem_iff.mp (List.mem_map_of_mem hd)
    exact Nat.le_of_lt_succ (List.mem_range.mp hmem)
  nodup := o.numbers_perm.nodup_iff.mpr List.nodup_range

theorem length_accepted : (o.offered.filter accepts).length = o.last + 1 := by
  have hlength := o.numbers_perm.length_eq
  rwa [List.length_map, List.length_range] at hlength

variable {o}

/-- What is still to come is what will be offered. -/
theorem missing_perm (h : o.offered = before ++ after) :
    (o.missing before).Perm ((after.filter accepts).map (·.number)) := by
  have hperm := o.numbers_perm
  rw [h, List.filter_append, List.map_append] at hperm
  have hnodup := hperm.nodup_iff.mpr List.nodup_range
  obtain ⟨-, hafter, hapart⟩ := List.nodup_append.mp hnodup
  apply (List.perm_ext_iff_of_nodup (List.nodup_range.filter _) hafter).mpr
  intro n
  rw [List.mem_filter, ← hperm.mem_iff, List.mem_append]
  simp only [Bool.not_eq_true', List.any_eq_false, beq_iff_eq]
  constructor
  · rintro ⟨hn | hn, hfresh⟩
    · obtain ⟨d, hd, rfl⟩ := List.mem_map.mp hn
      exact absurd rfl (hfresh d hd)
    · exact hn
  · intro hn
    exact ⟨Or.inr hn, fun d hd heq => hapart _ (List.mem_map_of_mem hd) _ hn heq⟩

theorem isLastMissing_iff (h : o.offered = before ++ d :: after) (hd : accepts d) :
    o.IsLastMissing before d ↔ after.filter accepts = [] := by
  have hperm := missing_perm h
  rw [List.filter_cons_of_pos hd, List.map_cons] at hperm
  rw [IsLastMissing, and_iff_right hd]
  constructor
  · intro hmissing
    rw [hmissing] at hperm
    simpa using hperm.length_eq
  · intro hnone
    rw [hnone] at hperm
    exact List.perm_singleton.mp hperm

/-! ### The description -/

theorem last_lt_length (hperm : held.Perm o.fragments) : o.last < held.length := by
  have hlength := congrArg List.length o.numbers_eq
  rw [List.length_map, List.length_range, ← hperm.length_eq] at hlength
  exact hlength ▸ Nat.lt_succ_self o.last

theorem inOrder_eq (hrun : IsRun o.last held) (hperm : held.Perm o.fragments) :
    inOrder held = o.fragments := by
  have hsorted : ∀ block : List ExtendedEvent, block.map (·.number) = List.range (o.last + 1) →
      block.Pairwise fun d e => d.number < e.number := by
    intro block hblock
    rw [← List.pairwise_map (R := (· < ·)), hblock]
    exact List.pairwise_lt_range
  exact ((List.mergeSort_perm held _).trans hperm).eq_of_pairwise
    (fun _ _ _ _ hlt hgt => absurd hlt (Nat.lt_asymm hgt))
    (hsorted _ (map_number_inOrder hrun (last_lt_length hperm))) (hsorted _ o.numbers_eq)

theorem number_head (o : Offering) : (o.fragments.head o.fragments_ne_nil).number = 0 := by
  have hnumbers := o.numbers_eq
  rw [← List.cons_head_tail o.fragments_ne_nil, List.map_cons, List.range_succ_eq_map] at hnumbers
  exact (List.cons.inj hnumbers).1

theorem wholeOf_eq {r : DescriptionRun} (h : Gathers table r held) (hlast : r.last = o.last)
    (hperm : held.Perm o.fragments) : wholeOf r = o.whole table := by
  have hmakes := h.makesUp (hlast ▸ last_lt_length hperm)
  obtain ⟨d, hd, hzero, hlanguage⟩ := hmakes.language_eq
  have hfirst : o.fragments.head o.fragments_ne_nil = d :=
    List.inj_on_of_nodup_map h.nodup (hperm.mem_iff.mpr (List.head_mem _)) hd
      (o.number_head.trans hzero.symm)
  have htext := hmakes.text_eq
  rw [inOrder_eq (hlast ▸ h.toIsRun) hperm] at htext
  rw [whole, hfirst, ← hlanguage, ← htext]

end Offering

/-! ### Adding what is offered -/

theorem run_eq_none (h : a.isOpen = false) : a.run = none := by
  rwa [isOpen, Option.isSome_eq_false_iff, Option.isNone_iff_eq_none] at h

theorem addAll_append (table : CharacterTable) (a : Assembler) (before after : List ExtendedEvent) :
    (a.addAll table (before ++ after)).value =
      ((a.addAll table before).value.addAll table after).value := by
  induction before generalizing a with
  | nil => rfl
  | cons d rest ih => exact ih (a.add table d).value.1

theorem addAll_concat (table : CharacterTable) (a : Assembler) (before : List ExtendedEvent)
    (d : ExtendedEvent) : (a.addAll table (before ++ [d])).value =
      ((a.addAll table before).value.add table d).value.1 :=
  addAll_append table a before [d]

theorem IsRun.goesOn {last : Nat} (h : IsRun last (held ++ d :: after)) : GoesOn held d := by
  intro e he
  have hnodup := h.nodup
  rw [List.map_append, List.map_cons] at hnodup
  have hapart := (List.nodup_append.mp hnodup).2.2
  constructor
  · rw [h.last_eq d (by simp), h.last_eq e (by simp [he])]
  · exact (hapart _ (List.mem_map_of_mem he) _ List.mem_cons_self).symm

namespace Offering

variable {o : Offering}

/-- How far an offering has come: its fragments are held while more of them are to come, and once
none is, the description is there. -/
def Stands (table : CharacterTable) (o : Offering) (start : List LangText)
    (before after : List ExtendedEvent) (a : Assembler) : Prop :=
  if after.filter accepts = [] then a = ⟨none, start ++ [o.whole table]⟩
  else a.completed = start ∧ a.Holds table (before.filter accepts)

theorem stands_start (h : a.isOpen = false) (o : Offering) :
    o.Stands table a.completed [] o.offered a := by
  have hsome : o.offered.filter accepts ≠ [] := by
    apply List.ne_nil_of_length_pos
    rw [o.length_accepted]
    exact Nat.succ_pos o.last
  rw [Stands, if_neg hsome]
  refine ⟨rfl, ?_⟩
  simp only [Holds, run_eq_none h, List.filter_nil]

theorem Stands.eq_of_nil (h : o.Stands table start before [] a) :
    a = ⟨none, start ++ [o.whole table]⟩ := by
  rwa [Stands, if_pos List.filter_nil] at h

theorem Stands.ignore (h : o.Stands table start before (d :: after) a) (hd : ¬accepts d) :
    o.Stands table start (before ++ [d]) after (a.add table d).value.1 := by
  rw [add_of_not_accepts hd]
  unfold Stands at h ⊢
  rw [List.filter_cons_of_neg hd] at h
  rw [List.filter_append, List.filter_cons_of_neg hd, List.filter_nil, List.append_nil]
  exact h

/-- With the last fragment that counts the description is handed out, and with no other. -/
theorem Stands.add_accepted (hsplit : o.offered = before ++ d :: after) (hd : accepts d)
    (h : o.Stands table start before (d :: after) a) :
    o.Stands table start (before ++ [d]) after (a.add table d).value.1 ∧
      (a.add table d).value.2 =
        if after.filter accepts = [] then some (o.whole table) else none := by
  have hrun := o.isRun
  have hlength := o.length_accepted
  have hperm := o.perm
  rw [hsplit, List.filter_append, List.filter_cons_of_pos hd] at hrun hlength hperm
  rw [Stands, List.filter_cons_of_pos hd, if_neg (List.cons_ne_nil _ _)] at h
  obtain ⟨hcompleted, hholds⟩ := h
  obtain ⟨hgathers, hlast⟩ := hholds.nextRun hd hrun.goesOn
  have hlast : (nextRun table a d).last = o.last := hlast.trans (hrun.last_eq d (by simp))
  have hparts := hgathers.length_parts
  rw [List.length_append, List.length_singleton] at hparts
  rw [List.length_append, List.length_cons] at hlength
  have hheld : (before ++ [d]).filter accepts = before.filter accepts ++ [d] := by
    rw [List.filter_append, List.filter_cons_of_pos hd, List.filter_nil]
  rw [Stands, hheld]
  by_cases hnone : after.filter accepts = []
  · rw [hnone] at hperm hlength
    rw [List.length_nil] at hlength
    rw [if_pos hnone, if_pos hnone, add_of_full hd (by omega), wholeOf_eq hgathers hlast hperm,
      hcompleted]
    exact ⟨rfl, rfl⟩
  · have hpos := List.length_pos_iff.mpr hnone
    rw [if_neg hnone, if_neg hnone, add_of_short hd (by omega)]
    refine ⟨⟨hcompleted, hgathers, hgathers.toIsRun, ?_, ?_⟩, rfl⟩
    · rw [List.length_append, List.length_singleton]
      omega
    · rw [List.length_append, List.length_singleton]
      omega

theorem Stands.add (hsplit : o.offered = before ++ d :: after)
    (h : o.Stands table start before (d :: after) a) :
    o.Stands table start (before ++ [d]) after (a.add table d).value.1 := by
  by_cases hd : accepts d
  · exact (h.add_accepted hsplit hd).1
  · exact h.ignore hd

/-- Of an offering as much has been done as has been offered of it. -/
theorem stands_addAll (h : a.isOpen = false) (before : List ExtendedEvent) :
    ∀ after, o.offered = before ++ after →
      o.Stands table a.completed before after (a.addAll table before).value := by
  induction before using List.reverseRecOn with
  | nil =>
    intro after hsplit
    rw [List.nil_append] at hsplit
    rw [← hsplit]
    exact stands_start h o
  | append_singleton before d ih =>
    intro after hsplit
    rw [List.append_assoc, List.singleton_append] at hsplit
    rw [addAll_concat]
    exact (ih (d :: after) hsplit).add hsplit

/-- A whole offering leaves its description behind and nothing else. -/
theorem addAll_offered (h : a.isOpen = false) (o : Offering) :
    (a.addAll table o.offered).value = ⟨none, a.completed ++ [o.whole table]⟩ :=
  (stands_addAll h o.offered [] (List.append_nil _).symm).eq_of_nil

end Offering

theorem addAll_flatMap_offered (h : a.isOpen = false) (offerings : List Offering) :
    (a.addAll table (offerings.flatMap (·.offered))).value =
      ⟨none, a.completed ++ offerings.map (·.whole table)⟩ := by
  induction offerings generalizing a with
  | nil =>
    rw [List.map_nil, List.append_nil, ← run_eq_none h]
    rfl
  | cons o rest ih =>
    rw [List.flatMap_cons, addAll_append, Offering.addAll_offered h o, ih rfl]
    simp

/-- Descriptions offered one after the other, each in whatever order, are completed in their order.
The next one is handed out with the one fragment that counts and has the last number missing, and
the assembler is closed then; with any other fragment nothing is handed out. -/
theorem addAll_offerings (h : a.isOpen = false) (earlier : List Offering) :
    (a.addAll table (earlier.flatMap (·.offered))).value =
      ⟨none, a.completed ++ earlier.map (·.whole table)⟩ ∧
    ∀ (o : Offering) (before : List ExtendedEvent) (d : ExtendedEvent) (after : List ExtendedEvent),
      o.offered = before ++ d :: after →
        let reached := (a.addAll table (earlier.flatMap (·.offered) ++ before)).value
        (o.IsLastMissing before d → (reached.add table d).value =
          (⟨none, a.completed ++ earlier.map (·.whole table) ++ [o.whole table]⟩,
            some (o.whole table))) ∧
        (¬o.IsLastMissing before d → (reached.add table d).value.2 = none) := by
  have hearlier : (a.addAll table (earlier.flatMap (·.offered))).value =
      ⟨none, a.completed ++ earlier.map (·.whole table)⟩ := addAll_flatMap_offered h earlier
  refine ⟨hearlier, ?_⟩
  intro o before d after hsplit reached
  have hreached : o.Stands table (a.completed ++ earlier.map (·.whole table)) before (d :: after)
      reached := by
    unfold reached
    rw [addAll_append, hearlier]
    exact Offering.stands_addAll rfl before (d :: after) hsplit
  by_cases hd : accepts d
  · obtain ⟨hstands, hanswer⟩ := hreached.add_accepted hsplit hd
    rw [Offering.isLastMissing_iff hsplit hd]
    constructor
    · intro hnone
      rw [if_pos hnone] at hanswer
      rw [Offering.Stands, if_pos hnone] at hstands
      exact Prod.ext hstands hanswer
    · intro hsome
      rwa [if_neg hsome] at hanswer
  · rw [add_of_not_accepts hd]
    exact ⟨fun hlast => absurd hlast.1 hd, fun _ => rfl⟩

def undivided : Offering where
  last := 0
  fragments := [letter 0 0 0x5A]
  offered := [letter 0 0 0x5A]
  numbers_eq := rfl
  last_eq := by decide
  perm := List.Perm.refl _

/-- The first of three fragments comes last; before it one is numbered beyond the last number and
one carries nothing. -/
def backward : Offering where
  last := 2
  fragments := [letter 0 2 0x41, letter 1 2 0x42, letter 2 2 0x43]
  offered := [letter 2 2 0x43, letter 3 2 0x44, letter 1 2 0x42,
    { letter 0 2 0x45 with isNonEmpty := false }, letter 0 2 0x41, letter 4 3 0x46]
  numbers_eq := rfl
  last_eq := by decide
  perm := by decide

theorem addAll_backward :
    empty.isOpen = false ∧
      let reached := (empty.addAll .latin ([undivided].flatMap (·.offered) ++
        backward.offered.take 4)).value
      (reached.add .latin (letter 0 2 0x41)).value =
        (⟨none, [⟨"eng", "Z"⟩, ⟨"eng", "ABC"⟩]⟩, some ⟨"eng", "ABC"⟩) :=
  ⟨rfl, (((addAll_offerings rfl [undivided]).2 backward _ _ [letter 4 3 0x46] rfl).1
    ⟨by decide, by decide⟩).trans (by decide +kernel)⟩

end BroadcastGuide.Assembler
