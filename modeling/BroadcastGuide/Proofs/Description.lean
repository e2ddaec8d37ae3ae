import BroadcastGuide.Description
import Mathlib.Data.List.Nodup
import Mathlib.Data.List.Perm.Subperm

/-! Whatever fragments are offered, those that count fall into consecutive pieces: a description
each, or a run that was given up, and at the end the run in progress. -/

namespace BroadcastGuide

open Text (CharacterTable)

namespace ExtendedEvent

def rendering (table : CharacterTable) (d : ExtendedEvent) : String := (d.render table).value

end ExtendedEvent

namespace Assembler

variable {table : CharacterTable} {a : Assembler} {r : DescriptionRun} {d : ExtendedEvent}
  {block held accepted : List ExtendedEvent} {last : Nat}

/-! ### Blocks of fragments -/

structure IsRun (last : Nat) (block : List ExtendedEvent) : Prop where
  last_eq : ∀ d ∈ block, d.last = last
  number_le : ∀ d ∈ block, d.number ≤ last
  nodup : (block.map (·.number)).Nodup

structure IsPart (last : Nat) (block : List ExtendedEvent) : Prop extends IsRun last block where
  one_le_length : 1 ≤ block.length
  length_lt : block.length < last + 1

def inOrder (block : List ExtendedEvent) : List ExtendedEvent :=
  block.mergeSort fun d e => d.number ≤ e.number

/-- All the fragments of a description, in whatever order, and what they say together. -/
structure MakesUp (table : CharacterTable) (last : Nat) (block : List ExtendedEvent)
    (whole : LangText) : Prop extends IsRun last block where
  length_eq : block.length = last + 1
  covers : ∀ n ≤ last, ∃ d ∈ block, d.number = n
  text_eq : whole.text = String.join ((inOrder block).map (·.rendering table))
  language_eq : ∃ d ∈ block, d.number = 0 ∧ whole.language = d.language

def GoesOn (run : List ExtendedEvent) (d : ExtendedEvent) : Prop :=
  ∀ e ∈ run, d.last = e.last ∧ d.number ≠ e.number

structure Piece where
  last : Nat
  fragments : List ExtendedEvent
  whole : Option LangText

/-- A piece is a description, or a part of one with the fragment behind it out of place. -/
def Piece.Ends (table : CharacterTable) (p : Piece) (behind : List ExtendedEvent) : Prop :=
  match p.whole with
  | some whole => MakesUp table p.last p.fragments whole
  | none => IsPart p.last p.fragments ∧ ∃ d ∈ behind.head?, ¬GoesOn p.fragments d

def fragmentsOf (pieces : List Piece) : List ExtendedEvent := pieces.flatMap (·.fragments)

/-- Every piece ends as it should, given the fragments behind the last one. -/
def AreCut (table : CharacterTable) : List Piece → List ExtendedEvent → Prop
  | [], _ => True
  | p :: rest, behind => p.Ends table (fragmentsOf rest ++ behind) ∧ AreCut table rest behind

theorem IsPart.ends (h : IsPart last block) (hd : ¬GoesOn block d) :
    Piece.Ends table ⟨last, block, none⟩ [d] :=
  ⟨h, d, rfl, hd⟩

theorem Piece.Ends.append {p : Piece} {behind : List ExtendedEvent} (h : p.Ends table behind)
    (more : List ExtendedEvent) : p.Ends table (behind ++ more) := by
  unfold Piece.Ends at h ⊢
  split at h
  · exact h
  · obtain ⟨hpart, d, hd, hnot⟩ := h
    refine ⟨hpart, d, ?_, hnot⟩
    rw [List.head?_append, hd, Option.some_or]
    rfl

theorem AreCut.append {pieces : List Piece} {behind : List ExtendedEvent}
    (h : AreCut table pieces behind) (more : List ExtendedEvent) :
    AreCut table pieces (behind ++ more) := by
  induction pieces with
  | nil => trivial
  | cons p rest ih =>
    refine ⟨?_, ih h.2⟩
    rw [← List.append_assoc]
    exact h.1.append more

theorem Piece.Ends.snoc {p : Piece} {behind : List ExtendedEvent} (hp : p.Ends table behind)
    {pieces : List Piece} (h : AreCut table pieces p.fragments) :
    AreCut table (pieces ++ [p]) behind := by
  replace h := h.append behind
  induction pieces with
  | nil => exact ⟨hp, trivial⟩
  | cons q rest ih =>
    refine ⟨?_, ih h.2⟩
    have hq := h.1
    simpa [fragmentsOf] using hq

/-! ### What a run has gathered -/

def IsFull (r : DescriptionRun) : Prop := ∀ n ≤ r.last, (r.parts.lookup n).isSome

structure Gathers (table : CharacterTable) (r : DescriptionRun) (held : List ExtendedEvent) : Prop
    extends IsRun r.last held where
  parts_eq : r.parts = (held.map fun d => (d.number, d.rendering table)).reverse
  language_eq : ∀ d ∈ held, d.number = 0 → r.language = some d.language

namespace Gathers

theorem fresh (table : CharacterTable) (last : Nat) : Gathers table ⟨last, none, []⟩ [] where
  last_eq := nofun
  number_le := nofun
  nodup := List.nodup_nil
  parts_eq := rfl
  language_eq := nofun

theorem length_parts (h : Gathers table r held) : r.parts.length = held.length := by
  rw [h.parts_eq, List.length_reverse, List.length_map]

theorem mem_parts (h : Gathers table r held) {part : Nat × String} :
    part ∈ r.parts ↔ ∃ d ∈ held, (d.number, d.rendering table) = part := by
  rw [h.parts_eq, List.mem_reverse, List.mem_map]

theorem lookup_isSome_iff (h : Gathers table r held) (n : Nat) :
    (r.parts.lookup n).isSome ↔ ∃ d ∈ held, d.number = n := by
  rw [← Decidable.not_iff_not, Bool.not_eq_true, Option.isSome_eq_false_iff,
    Option.isNone_iff_eq_none, List.lookup_eq_none_iff]
  constructor
  · rintro hnone ⟨d, hd, rfl⟩
    simpa using hnone _ (h.mem_parts.mpr ⟨d, hd, rfl⟩)
  · rintro hnot part hpart
    obtain ⟨d, hd, rfl⟩ := h.mem_parts.mp hpart
    exact bne_iff_ne.mpr fun hn => hnot ⟨d, hd, hn.symm⟩

/-- No number is held twice, so what is found under a number is the fragment of that number. -/
theorem lookup_eq (h : Gathers table r held) (hd : d ∈ held) :
    r.parts.lookup d.number = some (d.rendering table) := by
  obtain ⟨text, htext⟩ := Option.isSome_iff_exists.mp ((h.lookup_isSome_iff _).mpr ⟨d, hd, rfl⟩)
  obtain ⟨before, after, hparts, -⟩ := List.lookup_eq_some_iff.mp htext
  obtain ⟨e, he, hpart⟩ := h.mem_parts.mp (hparts ▸ List.mem_append_right _ List.mem_cons_self)
  have hnumber : e.number = d.number := congrArg Prod.fst hpart
  have hsame : e = d := List.inj_on_of_nodup_map h.nodup he hd hnumber
  rw [htext, ← hsame]
  exact congrArg some (congrArg Prod.snd hpart).symm

theorem goesOn_iff (h : Gathers table r held) (hne : held ≠ []) :
    GoesOn held d ↔ ¬((r.parts.lookup d.number).isSome ∨ d.last ≠ r.last) := by
  rw [h.lookup_isSome_iff]
  constructor
  · rintro hgoes (⟨e, he, hnumber⟩ | hlast)
    · exact (hgoes e he).2 hnumber.symm
    · obtain ⟨e, he⟩ := List.exists_mem_of_ne_nil held hne
      exact hlast ((hgoes e he).1.trans (h.last_eq e he))
  · intro hnot e he
    obtain ⟨hnumber, hlast⟩ := not_or.mp hnot
    exact ⟨(Decidable.not_not.mp hlast).trans (h.last_eq e he).symm,
      fun hn => hnumber ⟨e, he, hn.symm⟩⟩

theorem extend (h : Gathers table r held) (hgoes : GoesOn held d) (hlast : d.last = r.last)
    (hnumber : d.number ≤ d.last) :
    Gathers table (extend r d (d.rendering table)) (held ++ [d]) where
  last_eq := by
    rw [List.forall_mem_append, List.forall_mem_singleton]
    exact ⟨h.last_eq, hlast⟩
  number_le := by
    rw [List.forall_mem_append, List.forall_mem_singleton]
    exact ⟨h.number_le, hlast ▸ hnumber⟩
  nodup := by
    rw [List.map_append, List.map_singleton, List.nodup_append]
    refine ⟨h.nodup, List.nodup_singleton _, ?_⟩
    rintro n hn m hm rfl
    obtain ⟨e, he, rfl⟩ := List.mem_map.mp hn
    exact (hgoes e he).2 (List.mem_singleton.mp hm).symm
  parts_eq := by
    rw [List.map_append, List.reverse_append, ← h.parts_eq]
    rfl
  language_eq := by
    unfold Assembler.extend
    intro e he hzero
    rcases List.mem_append.mp he with he | he
    · -- the fragment added is numbered otherwise
      have hother : d.number ≠ 0 := hzero ▸ (hgoes e he).2
      rw [if_neg hother]
      exact h.language_eq e he hzero
    · cases List.mem_singleton.mp he
      rw [if_pos hzero]

end Gathers

/-! ### A complete run -/

/-- As many numbers as there are, none twice, are all the numbers. -/
theorem IsRun.numbers_perm (h : IsRun last block) (hlength : last < block.length) :
    (block.map (·.number)).Perm (List.range (last + 1)) := by
  have hsub : block.map (·.number) ⊆ List.range (last + 1) := by
    intro n hn
    obtain ⟨d, hd, rfl⟩ := List.mem_map.mp hn
    exact List.mem_range.mpr (Nat.lt_succ_of_le (h.number_le d hd))
  apply (List.subperm_of_subset h.nodup hsub).perm_of_length_le
  rw [List.length_range, List.length_map]
  exact hlength

theorem IsRun.covers (h : IsRun last block) (hlength : last < block.length) {n : Nat}
    (hn : n ≤ last) : ∃ d ∈ block, d.number = n := by
  have hmem : n ∈ List.range (last + 1) := List.mem_range.mpr (Nat.lt_succ_of_le hn)
  exact List.mem_map.mp ((h.numbers_perm hlength).mem_iff.mpr hmem)

theorem map_number_inOrder (h : IsRun last block) (hlength : last < block.length) :
    (inOrder block).map (·.number) = List.range (last + 1) := by
  have hsorted : ((inOrder block).map (·.number)).Pairwise (· ≤ ·) := by
    rw [List.pairwise_map]
    apply (List.pairwise_mergeSort _ _ block).imp
    · intro d e hde
      exact of_decide_eq_true hde
    · intro d e f hde hef
      exact decide_eq_true (Nat.le_trans (of_decide_eq_true hde) (of_decide_eq_true hef))
    · intro d e
      simp [Nat.le_total]
  have hperm := (List.mergeSort_perm block fun d e => d.number ≤ e.number).map (·.number)
  exact (hperm.trans (h.numbers_perm hlength)).eq_of_pairwise
    (fun _ _ _ _ => Nat.le_antisymm) hsorted List.pairwise_le_range

def wholeOf (r : DescriptionRun) : LangText := ⟨r.language.getD "", joined r⟩

theorem Gathers.makesUp (h : Gathers table r block) (hlength : r.last < block.length) :
    MakesUp table r.last block (wholeOf r) where
  toIsRun := h.toIsRun
  length_eq := by
    have hperm := (h.numbers_perm hlength).length_eq
    rwa [List.length_map, List.length_range] at hperm
  covers n hn := h.covers hlength hn
  text_eq := by
    have hparts : ∀ d ∈ inOrder block,
        (r.parts.lookup d.number).getD "" = d.rendering table := by
      intro d hd
      rw [h.lookup_eq (List.mem_mergeSort.mp hd), Option.getD_some]
    rw [wholeOf, joined, ← map_number_inOrder h.toIsRun hlength, List.map_map]
    exact congrArg String.join (List.map_congr_left hparts)
  language_eq := by
    obtain ⟨d, hd, hzero⟩ := h.covers hlength (Nat.zero_le _)
    refine ⟨d, hd, hzero, ?_⟩
    rw [wholeOf, h.language_eq d hd hzero, Option.getD_some]

theorem Gathers.ends (h : Gathers table r block) (hlength : r.last < block.length)
    (behind : List ExtendedEvent) :
    Piece.Ends table ⟨r.last, block, some (wholeOf r)⟩ behind :=
  h.makesUp hlength

/-! ### One fragment -/

def nextRun (table : CharacterTable) (a : Assembler) (d : ExtendedEvent) : DescriptionRun :=
  extend (a.runFor d) d (d.rendering table)

theorem add_of_not_accepts (hd : ¬accepts d) : (a.add table d).value = (a, none) := by
  rw [add, if_neg hd]
  rfl

theorem add_of_accepts (hd : accepts d) :
    (a.add table d).value = a.addText d (d.rendering table) := by
  rw [add, if_pos hd]
  rfl

theorem add_of_short (hd : accepts d)
    (h : (nextRun table a d).parts.length ≤ (nextRun table a d).last) :
    (a.add table d).value = (⟨some (nextRun table a d), a.completed⟩, none) :=
  (add_of_accepts hd).trans (if_pos (Nat.lt_succ_of_le h))

theorem add_of_full (hd : accepts d)
    (h : (nextRun table a d).last < (nextRun table a d).parts.length) :
    (a.add table d).value =
      (⟨none, a.completed ++ [wholeOf (nextRun table a d)]⟩, some (wholeOf (nextRun table a d))) :=
  (add_of_accepts hd).trans (if_neg (Nat.not_lt.mpr h))

/-- The run in progress holds exactly these fragments. -/
def Holds (table : CharacterTable) (a : Assembler) (held : List ExtendedEvent) : Prop :=
  match a.run with
  | none => held = []
  | some r => Gathers table r held ∧ IsPart r.last held

/-- What has become of the fragments that counted so far. -/
structure Account (table : CharacterTable) (a : Assembler) (accepted : List ExtendedEvent)
    (pieces : List Piece) (held : List ExtendedEvent) : Prop where
  accepted_eq : accepted = fragmentsOf pieces ++ held
  completed_eq : a.completed = pieces.filterMap (·.whole)
  areCut : AreCut table pieces held
  holds : a.Holds table held

/-- The fragments that the next one joins: those held, or none when it is out of place. -/
theorem Holds.runFor (h : a.Holds table held) (d : ExtendedEvent) :
    (a.runFor d).last = d.last ∧
      (GoesOn held d ∧ Gathers table (a.runFor d) held ∨
        ¬GoesOn held d ∧ Gathers table (a.runFor d) [] ∧ ∃ last, IsPart last held) := by
  cases hrun : a.run with
  | none =>
    simp only [Holds, hrun] at h
    simp only [Assembler.runFor, hrun, h]
    exact ⟨trivial, Or.inl ⟨nofun, Gathers.fresh table d.last⟩⟩
  | some r =>
    simp only [Holds, hrun] at h
    simp only [Assembler.runFor, hrun]
    obtain ⟨hgathers, hpart⟩ := h
    have hgoes := hgathers.goesOn_iff (d := d) (List.ne_nil_of_length_pos hpart.one_le_length)
    split
    · next hout =>
      exact ⟨rfl, Or.inr ⟨fun hon => hgoes.mp hon hout, Gathers.fresh table d.last, _, hpart⟩⟩
    · next hon =>
      refine ⟨?_, Or.inl ⟨hgoes.mpr hon, hgathers⟩⟩
      exact (Decidable.not_not.mp (not_or.mp hon).2).symm

/-- A fragment that can be added to what is held is held behind it. -/
theorem Holds.nextRun (h : a.Holds table held) (hd : accepts d) (hgoes : GoesOn held d) :
    Gathers table (nextRun table a d) (held ++ [d]) ∧ (nextRun table a d).last = d.last := by
  obtain ⟨hlast, ⟨-, hgathers⟩ | ⟨hnot, -⟩⟩ := h.runFor d
  · have hnumber : d.number ≤ d.last := of_decide_eq_true (Bool.and_eq_true_iff.mp hd).2
    exact ⟨hgathers.extend hgoes hlast.symm hnumber, hlast⟩
  · exact absurd hgoes hnot

/-- A fragment out of place is held alone. -/
theorem Holds.restart (h : a.Holds table held) (hd : accepts d) (hnot : ¬GoesOn held d) :
    Gathers table (Assembler.nextRun table a d) [d] ∧ ∃ last, IsPart last held := by
  obtain ⟨hlast, ⟨hgoes, -⟩ | ⟨-, hgathers, hpart⟩⟩ := h.runFor d
  · exact absurd hgoes hnot
  · have hnumber : d.number ≤ d.last := of_decide_eq_true (Bool.and_eq_true_iff.mp hd).2
    exact ⟨hgathers.extend nofun hlast.symm hnumber, hpart⟩

/-- With a fragment that counts added, the run holds it behind fragments that it goes on with; what
was held before it out of place has become a piece. -/
theorem Account.nextRun {pieces : List Piece} (h : Account table a accepted pieces held)
    (hd : accepts d) : ∃ pieces' held',
      accepted = fragmentsOf pieces' ++ held' ∧ a.completed = pieces'.filterMap (·.whole) ∧
      AreCut table pieces' (held' ++ [d]) ∧
      Gathers table (nextRun table a d) (held' ++ [d]) := by
  by_cases hgoes : GoesOn held d
  · exact ⟨pieces, held, h.accepted_eq, h.completed_eq, h.areCut.append [d],
      (h.holds.nextRun hd hgoes).1⟩
  · obtain ⟨hgathers, last, hpart⟩ := h.holds.restart hd hgoes
    refine ⟨pieces ++ [⟨last, held, none⟩], [], ?_, ?_, ?_, hgathers⟩
    · simp [fragmentsOf, h.accepted_eq]
    · simp [h.completed_eq]
    · exact (hpart.ends hgoes).snoc h.areCut

theorem Account.add {pieces : List Piece} (h : Account table a accepted pieces held)
    (d : ExtendedEvent) : ∃ pieces' held',
      Account table (a.add table d).value.1 (accepted ++ [d].filter accepts) pieces' held' := by
  by_cases hd : accepts d
  · obtain ⟨pieces, held, haccepted, hcompleted, hcut, hnext⟩ := h.nextRun hd
    rw [List.filter_cons_of_pos hd]
    rcases Nat.lt_or_ge (Assembler.nextRun table a d).last
      (Assembler.nextRun table a d).parts.length with hfull | hshort
    · rw [add_of_full hd hfull]
      rw [hnext.length_parts] at hfull
      refine ⟨_, [], ?_, ?_, (hnext.ends hfull []).snoc hcut, rfl⟩
      · simp [fragmentsOf, haccepted]
      · simp [hcompleted]
    · rw [add_of_short hd hshort]
      rw [hnext.length_parts] at hshort
      refine ⟨pieces, held ++ [d], ?_, hcompleted, hcut, hnext, hnext.toIsRun, ?_,
        Nat.lt_succ_of_le hshort⟩
      · simp [haccepted]
      · simp
  · rw [List.filter_cons_of_neg hd, add_of_not_accepts hd]
    exact ⟨pieces, held, by simpa using h⟩

/-- Joining finds a text under every number. -/
theorem Account.isFull {pieces : List Piece} (h : Account table a accepted pieces held)
    {whole : LangText} (hwhole : (a.add table d).value.2 = some whole) :
    IsFull (Assembler.nextRun table a d) := by
  by_cases hd : accepts d
  · obtain ⟨-, held, -, -, -, hnext⟩ := h.nextRun hd
    have hfull : (Assembler.nextRun table a d).last < (held ++ [d]).length := by
      apply Nat.lt_of_not_le
      intro hshort
      rw [← hnext.length_parts] at hshort
      rw [add_of_short hd hshort] at hwhole
      cases hwhole
    intro n hn
    exact (hnext.lookup_isSome_iff n).mpr (hnext.covers hfull hn)
  · rw [add_of_not_accepts hd] at hwhole
    cases hwhole

theorem Account.addAll {pieces : List Piece} (h : Account table a accepted pieces held)
    (fragments : List ExtendedEvent) : ∃ pieces' held',
      Account table (a.addAll table fragments).value (accepted ++ fragments.filter accepts)
        pieces' held' := by
  induction fragments generalizing a accepted pieces held with
  | nil => exact ⟨pieces, held, by simpa [Assembler.addAll] using h⟩
  | cons d rest ih =>
    obtain ⟨pieces, held, h⟩ := h.add d
    have hrest := ih h
    rwa [List.append_assoc, ← List.filter_append] at hrest

theorem empty_account (table : CharacterTable) : Account table empty [] [] [] where
  accepted_eq := rfl
  completed_eq := rfl
  areCut := trivial
  holds := rfl

theorem Holds.isOpen_iff (h : a.Holds table held) : a.isOpen ↔ ∃ last, IsPart last held := by
  cases hrun : a.run with
  | none =>
    simp only [Holds, hrun] at h
    subst h
    simp only [isOpen, hrun]
    exact ⟨nofun, fun ⟨_, hpart⟩ => absurd hpart.one_le_length (by decide)⟩
  | some r =>
    simp only [Holds, hrun] at h
    simp only [isOpen, hrun]
    exact ⟨fun _ => ⟨r.last, h.2⟩, fun _ => rfl⟩

/-- Whatever fragments are offered to a new assembler, those that count are consecutive pieces and
the fragments held at the end. The descriptions completed are the pieces that make one up, in order;
the assembler is open while what it holds is a part of a description; and when the next fragment
completes one, no text is missing where it is joined. -/
theorem addAll_pieces (table : CharacterTable) (fragments : List ExtendedEvent) :
    let a := (empty.addAll table fragments).value
    ∃ pieces held,
      fragments.filter accepts = fragmentsOf pieces ++ held ∧
      a.completed = pieces.filterMap (·.whole) ∧
      AreCut table pieces held ∧
      a.Holds table held ∧
      (a.isOpen ↔ ∃ last, IsPart last held) ∧
      ∀ d whole, (a.add table d).value.2 = some whole → IsFull (nextRun table a d) := by
  obtain ⟨pieces, held, h⟩ := (empty_account table).addAll fragments
  exact ⟨pieces, held, h.accepted_eq, h.completed_eq, h.areCut, h.holds, h.holds.isOpen_iff,
    fun _ _ hwhole => h.isFull hwhole⟩

def letter (number last : Nat) (text : UInt8) : ExtendedEvent :=
  ⟨number, last, "eng", [], [text], true⟩

/-- The second fragment starts the run again, the third is numbered beyond its last number, the
fourth completes the run and the fifth is held. -/
def restarted : List ExtendedEvent :=
  [letter 0 1 0x41, letter 0 1 0x42, letter 2 1 0x43, letter 1 1 0x44, letter 1 1 0x45]

theorem addAll_restarted :
    let a := (empty.addAll .latin restarted).value
    a.completed = [⟨"eng", "BD"⟩] ∧
      (a.add .latin (letter 0 1 0x46)).value.2 = some ⟨"eng", "FE"⟩ ∧
      IsFull (nextRun .latin a (letter 0 1 0x46)) := by
  have hwhole : ((empty.addAll .latin restarted).value.add .latin (letter 0 1 0x46)).value.2 =
      some ⟨"eng", "FE"⟩ := by decide +kernel
  obtain ⟨pieces, held, -, -, -, -, -, hfull⟩ := addAll_pieces .latin restarted
  exact ⟨by decide +kernel, hwhole, hfull _ _ hwhole⟩

end Assembler

end BroadcastGuide
