import BroadcastGuide.Numeral.Literal
import BroadcastGuide.Proofs.Text.Words
import Mathlib.Data.List.Induction

/-! The grammar of integer literals. What is read of a text is the value of the literal that the
text spells; only the number of decimal digits has a limit beyond the grammar. -/

namespace BroadcastGuide.Numeral

/-- Digits in a base, with at most one underscore between two of them. -/
inductive Digits (base : Nat) : List Char → List Nat → Prop
  | last {c : Char} {d : Nat} (digit : digit? base c = some d) : Digits base [c] [d]
  | next {c : Char} {d : Nat} {s : List Char} {ds : List Nat} (digit : digit? base c = some d)
      (rest : Digits base s ds) : Digits base (c :: s) (d :: ds)
  | spaced {c : Char} {d : Nat} {s : List Char} {ds : List Nat} (digit : digit? base c = some d)
      (rest : Digits base s ds) : Digits base (c :: '_' :: s) (d :: ds)

theorem digit?_underscore (base : Nat) : digit? base '_' = none := by
  simp [digit?]

theorem exists_digit {base : Nat} {c : Char} {rest : List Char} {ds : List Nat}
    (h : digits? base (c :: rest) = some ds) : ∃ d, digit? base c = some d := by
  rw [digits?] at h
  obtain ⟨d, hd, _⟩ := Option.bind_eq_some_iff.mp h
  exact ⟨d, hd⟩

theorem digits?_spaced {base d : Nat} {c : Char} (hd : digit? base c = some d) (rest : List Char) :
    digits? base (c :: '_' :: rest) = (digits? base rest).map (d :: ·) := by
  rw [digits?, hd]
  rfl

theorem digits?_next {base d : Nat} {c next : Char} (hd : digit? base c = some d)
    (h : next ≠ '_') (rest : List Char) :
    digits? base (c :: next :: rest) = (digits? base (next :: rest)).map (d :: ·) := by
  rw [digits?, hd, Option.bind_some]
  split
  · contradiction
  · rename_i heq
    exact absurd (List.cons.inj heq).1 h
  · rename_i heq
    rw [heq]

/-- Digits do not begin with an underscore. -/
theorem Digits.exists_cons {base : Nat} {s : List Char} {ds : List Nat} (h : Digits base s ds) :
    ∃ c d rest tail, s = c :: rest ∧ ds = d :: tail ∧ c ≠ '_' ∧ digit? base c = some d := by
  have not_underscore {c : Char} {d : Nat} (hd : digit? base c = some d) : c ≠ '_' := by
    rintro rfl
    rw [digit?_underscore] at hd
    cases hd
  cases h with
  | last hd => exact ⟨_, _, _, _, rfl, rfl, not_underscore hd, hd⟩
  | next hd _ => exact ⟨_, _, _, _, rfl, rfl, not_underscore hd, hd⟩
  | spaced hd _ => exact ⟨_, _, _, _, rfl, rfl, not_underscore hd, hd⟩

theorem not_digits_cons {base : Nat} {c : Char} (hc : digit? base c = none) (rest : List Char)
    (ds : List Nat) : ¬ Digits base (c :: rest) ds := by
  intro h
  obtain ⟨first, d, _, _, hfirst, _, _, hd⟩ := h.exists_cons
  rw [← (List.cons.inj hfirst).1, hc] at hd
  cases hd

theorem digits?_eq_some_iff {base : Nat} {s : List Char} {ds : List Nat} :
    digits? base s = some ds ↔ Digits base s ds := by
  constructor
  · intro h
    induction s using List.twoStepInduction generalizing ds with
    | nil => cases h
    | singleton c =>
      obtain ⟨d, hd, h⟩ := Option.bind_eq_some_iff.mp h
      cases h
      exact .last hd
    | cons_cons c next rest ihrest ihnext =>
      obtain ⟨d, hd⟩ := exists_digit h
      by_cases hnext : next = '_'
      · subst hnext
        rw [digits?_spaced hd] at h
        obtain ⟨tail, htail, rfl⟩ := Option.map_eq_some_iff.mp h
        exact .spaced hd (ihrest htail)
      · rw [digits?_next hd hnext] at h
        obtain ⟨tail, htail, rfl⟩ := Option.map_eq_some_iff.mp h
        exact .next hd (ihnext next htail)
  · intro h
    induction h with
    | last hd => rw [digits?, hd, Option.bind_some]
    | next hd hrest ih =>
      obtain ⟨next, _, rest, _, rfl, _, hnext, _⟩ := hrest.exists_cons
      rw [digits?_next hd hnext, ih, Option.map_some]
    | spaced hd _ ih => rw [digits?_spaced hd, ih, Option.map_some]

def marks : List (Char × Nat) := [('x', 16), ('X', 16), ('o', 8), ('O', 8), ('b', 2), ('B', 2)]

/-- A text spells a magnitude in a base with some digits. Without a mark it is decimal, and then
only zero begins with a zero. -/
inductive Magnitude : List Char → Nat → List Nat → Prop
  | decimal {s : List Char} {ds : List Nat} (digits : Digits 10 s ds)
      (lead : ds.head? = some 0 → ∀ d ∈ ds, d = 0) : Magnitude s 10 ds
  | marked {mark : Char} {base : Nat} {s : List Char} {ds : List Nat}
      (mem : (mark, base) ∈ marks) (digits : Digits base s ds) :
      Magnitude ('0' :: mark :: s) base ds
  | spaced {mark : Char} {base : Nat} {s : List Char} {ds : List Nat}
      (mem : (mark, base) ∈ marks) (digits : Digits base s ds) :
      Magnitude ('0' :: mark :: '_' :: s) base ds

/-- The digits of a magnitude are no more than are read: any number with a mark. -/
def IsWithin (base : Nat) (ds : List Nat) : Prop := base = 10 → ds.length ≤ maxDecimalDigits

/-- A text in ASCII spells an integer: a sign or none, and a magnitude. -/
inductive Spelling : List Char → Nat → List Nat → Int → Prop
  | unsigned {s : List Char} {base : Nat} {ds : List Nat} (h : Magnitude s base ds) :
      Spelling s base ds (ofDigits base ds)
  | plus {s : List Char} {base : Nat} {ds : List Nat} (h : Magnitude s base ds) :
      Spelling ('+' :: s) base ds (ofDigits base ds)
  | minus {s : List Char} {base : Nat} {ds : List Nat} (h : Magnitude s base ds) :
      Spelling ('-' :: s) base ds (-ofDigits base ds)

/-- An integer literal, in decimal digits of any script, and its value. -/
def IsLiteral (s : List Char) (n : Int) : Prop :=
  ∃ base ds, Spelling (s.map asciiDigit) base ds n

/-- An integer literal with no more decimal digits than are read, and its value. -/
def IsReadable (s : List Char) (n : Int) : Prop :=
  ∃ base ds, Spelling (s.map asciiDigit) base ds n ∧ IsWithin base ds

theorem digit?_eq_zero_iff {c : Char} : digit? 10 c = some 0 ↔ c = '0' := by
  constructor
  · intro h
    have hc : c.toNat = 0x30 := by
      simp only [digit?, Bool.and_eq_true, decide_eq_true_eq, Option.ite_none_right_eq_some,
        Option.some.injEq] at h
      split at h
      · omega
      · split at h
        · omega
        · split at h <;> omega
    exact Char.toNat_inj.mp hc
  · rintro rfl
    rfl

theorem ofDigits_eq_zero_iff {base : Nat} (hbase : 0 < base) {ds : List Nat} :
    ofDigits base ds = 0 ↔ ∀ d ∈ ds, d = 0 := by
  suffices h : ∀ n, ds.foldl (fun n d => n * base + d) n = 0 ↔ n = 0 ∧ ∀ d ∈ ds, d = 0 by
    simpa [ofDigits] using h 0
  induction ds with
  | nil => simp
  | cons d ds ih =>
    intro n
    rw [List.foldl_cons, ih, List.forall_mem_cons, Nat.add_eq_zero_iff, Nat.mul_eq_zero]
    have hne : base ≠ 0 := by omega
    tauto

theorem base_ne_ten {mark : Char} {base : Nat} (h : (mark, base) ∈ marks) : base ≠ 10 := by
  rintro rfl
  simp [marks] at h

theorem digit?_mark {mark : Char} {base : Nat} (h : (mark, base) ∈ marks) :
    digit? 10 mark = none ∧ mark ≠ '_' := by
  simp only [marks, List.mem_cons, Prod.mk.injEq, List.not_mem_nil, or_false] at h
  rcases h with ⟨rfl, _⟩ | ⟨rfl, _⟩ | ⟨rfl, _⟩ | ⟨rfl, _⟩ | ⟨rfl, _⟩ | ⟨rfl, _⟩ <;> decide

theorem base_eq {mark : Char} {base other : Nat} (h : (mark, base) ∈ marks)
    (h' : (mark, other) ∈ marks) : base = other := by
  simp only [marks, List.mem_cons, Prod.mk.injEq, List.not_mem_nil, or_false] at h h'
  grind

theorem markedMagnitude?_eq_some_iff {base : Nat} {s : List Char} {n : Nat} :
    markedMagnitude? base s = some n ↔ ∃ ds, n = ofDigits base ds ∧
      (Digits base s ds ∨ ∃ rest, s = '_' :: rest ∧ Digits base rest ds) := by
  by_cases hs : ∃ rest, s = '_' :: rest
  · obtain ⟨rest, rfl⟩ := hs
    have hnot := not_digits_cons (digit?_underscore base) rest
    rw [markedMagnitude?, Option.map_eq_some_iff]
    simp only [digits?_eq_some_iff, hnot, false_or, List.cons.injEq, true_and, exists_eq_left',
      and_comm, eq_comm (a := n)]
  · have hplain : markedMagnitude? base s = (digits? base s).map (ofDigits base) := by
      unfold markedMagnitude?
      split
      · exact absurd ⟨_, rfl⟩ hs
      · rfl
    have hnot (ds : List Nat) : ¬ ∃ rest, s = '_' :: rest ∧ Digits base rest ds :=
      fun ⟨rest, h, _⟩ => hs ⟨rest, h⟩
    rw [hplain, Option.map_eq_some_iff]
    simp only [digits?_eq_some_iff, hnot, or_false, and_comm, eq_comm (a := n)]

theorem decimalMagnitude?_eq_some_iff {s : List Char} {n : Nat} :
    decimalMagnitude? s = some n ↔
      ∃ ds, Digits 10 s ds ∧ ds.length ≤ maxDecimalDigits ∧ n = ofDigits 10 ds := by
  rw [decimalMagnitude?, Option.bind_eq_some_iff]
  constructor
  · rintro ⟨ds, hds, h⟩
    split at h
    · rename_i hlength
      cases h
      exact ⟨ds, digits?_eq_some_iff.mp hds, hlength, rfl⟩
    · cases h
  · rintro ⟨ds, hds, hlength, rfl⟩
    exact ⟨ds, digits?_eq_some_iff.mpr hds, if_pos hlength⟩

theorem magnitude?_marked {mark : Char} {base : Nat} (h : (mark, base) ∈ marks)
    (rest : List Char) : magnitude? ('0' :: mark :: rest) = markedMagnitude? base rest := by
  simp only [marks, List.mem_cons, Prod.mk.injEq, List.not_mem_nil, or_false] at h
  rcases h with ⟨rfl, rfl⟩ | ⟨rfl, rfl⟩ | ⟨rfl, rfl⟩ | ⟨rfl, rfl⟩ | ⟨rfl, rfl⟩ | ⟨rfl, rfl⟩ <;> rfl

theorem magnitude?_decimal {s : List Char}
    (h : ∀ mark base rest, (mark, base) ∈ marks → s ≠ '0' :: mark :: rest) :
    magnitude? s =
      if s.head? = some '0' then (decimalMagnitude? s).filter (· == 0)
      else decimalMagnitude? s := by
  unfold magnitude?
  split
  · exact absurd rfl (h 'x' 16 _ (by decide))
  · exact absurd rfl (h 'X' 16 _ (by decide))
  · exact absurd rfl (h 'o' 8 _ (by decide))
  · exact absurd rfl (h 'O' 8 _ (by decide))
  · exact absurd rfl (h 'b' 2 _ (by decide))
  · exact absurd rfl (h 'B' 2 _ (by decide))
  · rfl
  · rename_i hother
    rw [if_neg]
    intro hzero
    cases s with
    | nil => cases hzero
    | cons c rest => exact hother rest (congrArg (· :: rest) (Option.some.inj hzero))

theorem not_digits_marked {mark : Char} {base : Nat} (h : (mark, base) ∈ marks)
    (rest : List Char) (ds : List Nat) : ¬ Digits 10 ('0' :: mark :: rest) ds := by
  obtain ⟨hdigit, hne⟩ := digit?_mark h
  rintro (_ | ⟨_, hrest⟩ | _)
  · exact not_digits_cons hdigit rest _ hrest
  · exact hne rfl

/-- The first digit is zero where the text begins with a zero. -/
theorem Digits.head?_eq_zero_iff {s : List Char} {ds : List Nat} (h : Digits 10 s ds) :
    ds.head? = some 0 ↔ s.head? = some '0' := by
  obtain ⟨c, d, _, _, rfl, rfl, _, hd⟩ := h.exists_cons
  rw [List.head?_cons, List.head?_cons, Option.some.injEq, Option.some.injEq,
    ← digit?_eq_zero_iff, hd, Option.some.injEq]

/-- A decimal magnitude is read if its digits are no more than are read and, where it begins with a
zero, it is zero. -/
theorem magnitude?_decimal_iff {s : List Char} {n : Nat}
    (h : ∀ mark base rest, (mark, base) ∈ marks → s ≠ '0' :: mark :: rest) :
    magnitude? s = some n ↔ ∃ ds, Digits 10 s ds ∧ (ds.head? = some 0 → ∀ d ∈ ds, d = 0) ∧
      ds.length ≤ maxDecimalDigits ∧ n = ofDigits 10 ds := by
  rw [magnitude?_decimal h]
  split
  · rename_i hzero
    rw [Option.filter_eq_some_iff, decimalMagnitude?_eq_some_iff]
    constructor
    · rintro ⟨⟨ds, hds, hlength, rfl⟩, hvalue⟩
      exact ⟨ds, hds, fun _ => (ofDigits_eq_zero_iff (Nat.succ_pos 9)).mp (eq_of_beq hvalue),
        hlength, rfl⟩
    · rintro ⟨ds, hds, hlead, hlength, rfl⟩
      have hvalue := (ofDigits_eq_zero_iff (Nat.succ_pos 9)).mpr
        (hlead (hds.head?_eq_zero_iff.mpr hzero))
      exact ⟨⟨ds, hds, hlength, rfl⟩, by rw [hvalue, beq_self_eq_true]⟩
  · rename_i hother
    rw [decimalMagnitude?_eq_some_iff]
    constructor
    · rintro ⟨ds, hds, hlength, rfl⟩
      exact ⟨ds, hds, fun hzero => absurd (hds.head?_eq_zero_iff.mp hzero) hother, hlength, rfl⟩
    · rintro ⟨ds, hds, _, hlength, rfl⟩
      exact ⟨ds, hds, hlength, rfl⟩

theorem magnitude?_eq_some_iff {s : List Char} {n : Nat} :
    magnitude? s = some n ↔ ∃ base ds, Magnitude s base ds ∧ IsWithin base ds ∧
      n = ofDigits base ds := by
  by_cases hs : ∃ mark base rest, (mark, base) ∈ marks ∧ s = '0' :: mark :: rest
  · obtain ⟨mark, base, rest, hmark, rfl⟩ := hs
    rw [magnitude?_marked hmark, markedMagnitude?_eq_some_iff]
    constructor
    · have hwithin (ds : List Nat) : IsWithin base ds := fun hten =>
        absurd hten (base_ne_ten hmark)
      rintro ⟨ds, rfl, hds | ⟨rest, rfl, hds⟩⟩
      · exact ⟨base, ds, .marked hmark hds, hwithin ds, rfl⟩
      · exact ⟨base, ds, .spaced hmark hds, hwithin ds, rfl⟩
    · rintro ⟨other, ds, h, _, rfl⟩
      cases h with
      | decimal hds _ => exact absurd hds (not_digits_marked hmark rest ds)
      | marked hother hds =>
        cases base_eq hmark hother
        exact ⟨ds, rfl, Or.inl hds⟩
      | spaced hother hds =>
        cases base_eq hmark hother
        exact ⟨ds, rfl, Or.inr ⟨_, rfl, hds⟩⟩
  · have hplain : ∀ mark base rest, (mark, base) ∈ marks → s ≠ '0' :: mark :: rest :=
      fun mark base rest hmark h => hs ⟨mark, base, rest, hmark, h⟩
    rw [magnitude?_decimal_iff hplain]
    constructor
    · rintro ⟨ds, hds, hlead, hlength, rfl⟩
      exact ⟨10, ds, .decimal hds hlead, fun _ => hlength, rfl⟩
    · rintro ⟨base, ds, h, hwithin, rfl⟩
      cases h with
      | decimal hds hlead => exact ⟨ds, hds, hlead, hwithin rfl, rfl⟩
      | marked hmark _ => exact absurd rfl (hplain _ _ _ hmark)
      | spaced hmark _ => exact absurd rfl (hplain _ _ _ hmark)

/-- A magnitude begins with a digit. -/
theorem Magnitude.head?_ne {s : List Char} {base : Nat} {ds : List Nat} (h : Magnitude s base ds)
    {c : Char} (hc : digit? 10 c = none) : s.head? ≠ some c := by
  intro hs
  cases h with
  | decimal hds _ =>
    obtain ⟨rest, rfl⟩ := List.head?_eq_some_iff.mp hs
    exact not_digits_cons hc rest ds hds
  | marked _ _ =>
    cases hs
    cases hc
  | spaced _ _ =>
    cases hs
    cases hc

theorem withSign_eq_some_iff {s : List Char} {n : Int} :
    withSign magnitude? s = some n ↔ ∃ base ds, Spelling s base ds n ∧ IsWithin base ds := by
  constructor
  · intro h
    unfold withSign at h
    split at h
    · obtain ⟨_, hm, rfl⟩ := Option.map_eq_some_iff.mp h
      obtain ⟨m, hm, hcast⟩ := Option.bind_eq_some_iff.mp hm
      obtain ⟨base, ds, hds, hwithin, rfl⟩ := magnitude?_eq_some_iff.mp hm
      cases hcast
      exact ⟨base, ds, .minus hds, hwithin⟩
    · obtain ⟨m, hm, rfl⟩ := Option.map_eq_some_iff.mp h
      obtain ⟨base, ds, hds, hwithin, rfl⟩ := magnitude?_eq_some_iff.mp hm
      exact ⟨base, ds, .plus hds, hwithin⟩
    · obtain ⟨m, hm, rfl⟩ := Option.map_eq_some_iff.mp h
      obtain ⟨base, ds, hds, hwithin, rfl⟩ := magnitude?_eq_some_iff.mp hm
      exact ⟨base, ds, .unsigned hds, hwithin⟩
  · rintro ⟨base, ds, h, hwithin⟩
    cases h with
    | unsigned hds =>
      have hread := magnitude?_eq_some_iff.mpr ⟨base, ds, hds, hwithin, rfl⟩
      unfold withSign
      split
      · exact absurd rfl (hds.head?_ne (c := '-') (by decide))
      · exact absurd rfl (hds.head?_ne (c := '+') (by decide))
      · rw [hread]
        rfl
    | plus hds =>
      rw [withSign, magnitude?_eq_some_iff.mpr ⟨base, ds, hds, hwithin, rfl⟩]
      rfl
    | minus hds =>
      rw [withSign, magnitude?_eq_some_iff.mpr ⟨base, ds, hds, hwithin, rfl⟩]
      rfl

theorem trimWhile_of_none {drop : Char → Bool} {s : List Char} (h : ∀ c ∈ s, drop c = false) :
    Text.trimWhile drop s = s := by
  rw [Text.trimWhile, Text.dropWhile_of_first fun c hc => h c (List.mem_of_mem_head? hc),
    Text.dropWhile_of_first fun c hc => h c (List.mem_reverse.mp (List.mem_of_mem_head? hc)),
    List.reverse_reverse]

/-- A text without white space is read as the literal that it is. -/
theorem literal?_eq_some_iff {s : List Char} (h : ∀ c ∈ s, Text.isBlank c = false) {n : Int} :
    literal? s = some n ↔ IsReadable s n := by
  have hmargin : ∀ c ∈ s, isMargin c = false := fun c hc => by rw [isMargin, h c hc, Bool.false_and]
  rw [literal?, trimWhile_of_none hmargin, withSign_eq_some_iff, IsReadable]

/-- A literal is no comment. -/
theorem IsReadable.head?_ne {s : List Char} {n : Int} (h : IsReadable s n) :
    s.head? ≠ some '#' := by
  intro hs
  obtain ⟨rest, rfl⟩ := List.head?_eq_some_iff.mp hs
  obtain ⟨base, ds, hspelling, _⟩ := h
  have hascii : asciiDigit '#' = '#' := by decide
  rw [List.map_cons, hascii] at hspelling
  cases hspelling with
  | unsigned hmagnitude => exact hmagnitude.head?_ne (c := '#') (by decide) rfl

/-! ### Numbers written in decimal -/

/-- A digit that is written is the ASCII digit that is read. -/
theorem digitChar_read : ∀ d < 10,
    asciiDigit (Nat.digitChar d) = Nat.digitChar d ∧ digit? 10 (Nat.digitChar d) = some d := by
  decide

theorem Digits.concat {base : Nat} {s : List Char} {ds : List Nat} (h : Digits base s ds) {c : Char}
    {d : Nat} (hd : digit? base c = some d) : Digits base (s ++ [c]) (ds ++ [d]) := by
  induction h with
  | last hfirst => exact .next hfirst (.last hd)
  | next hfirst _ ih => exact .next hfirst ih
  | spaced hfirst _ ih => exact .spaced hfirst ih

theorem ofDigits_concat (base : Nat) (ds : List Nat) (d : Nat) :
    ofDigits base (ds ++ [d]) = ofDigits base ds * base + d := by
  rw [ofDigits, List.foldl_append]
  rfl

/-- The digits written of a number are its digits, and none of them is a leading zero. -/
theorem exists_digits (n : Nat) : ∃ ds, Digits 10 ((Nat.toDigits 10 n).map asciiDigit) ds ∧
    ofDigits 10 ds = n ∧ ds.length = (Nat.toDigits 10 n).length ∧
    (ds.head? = some 0 → ds = [0]) := by
  induction n using Nat.strongRecOn with
  | ind n ih =>
    by_cases hn : n < 10
    · obtain ⟨hascii, hdigit⟩ := digitChar_read n hn
      refine ⟨[n], ?_, Nat.zero_add n, ?_, fun hzero => ?_⟩
      · rw [Nat.toDigits_of_lt_base hn, List.map_singleton, hascii]
        exact .last hdigit
      · rw [Nat.toDigits_of_lt_base hn, List.length_singleton, List.length_singleton]
      · rw [Option.some.inj hzero]
    · obtain ⟨ds, hds, hvalue, hlength, hlead⟩ := ih (n / 10) (by omega)
      obtain ⟨hascii, hdigit⟩ := digitChar_read (n % 10) (Nat.mod_lt n (by decide))
      have hwritten : Nat.toDigits 10 n = Nat.toDigits 10 (n / 10) ++ [Nat.digitChar (n % 10)] :=
        Nat.toDigits_of_base_le (by decide) (by omega)
      refine ⟨ds ++ [n % 10], ?_, ?_, ?_, fun hzero => ?_⟩
      · rw [hwritten, List.map_append, List.map_singleton, hascii]
        exact hds.concat hdigit
      · rw [ofDigits_concat, hvalue]
        omega
      · rw [hwritten, List.length_append, List.length_append, hlength, List.length_singleton,
          List.length_singleton]
      · -- a leading zero is the only digit of what stands ahead, and that is not zero
        obtain ⟨_, d, _, tail, _, rfl, _, _⟩ := hds.exists_cons
        rw [hlead hzero] at hvalue
        have hnone : n / 10 = 0 := hvalue.symm
        omega

/-- A number in decimal, with no more digits than are read. -/
def IsWritable (n : Int) : Prop := (Nat.toDigits 10 n.natAbs).length ≤ maxDecimalDigits

instance (n : Int) : Decidable (IsWritable n) :=
  Nat.decLe (Nat.toDigits 10 n.natAbs).length maxDecimalDigits

theorem exists_not_isWritable : ∃ n : Nat, ¬ IsWritable n := by
  refine ⟨10 ^ maxDecimalDigits, ?_⟩
  rw [IsWritable, Int.natAbs_natCast, Nat.length_toDigits_le_iff (by decide) (by decide)]
  exact Nat.lt_irrefl _

theorem toList_toString_ofNat (n : Nat) : (toString (Int.ofNat n)).toList = Nat.toDigits 10 n :=
  Nat.toList_repr

theorem toList_toString_negSucc (n : Nat) :
    (toString (Int.negSucc n)).toList = '-' :: Nat.toDigits 10 (n + 1) := by
  rw [← Nat.toList_repr]
  exact String.toList_append

/-- What is written of a number is a literal of its value. -/
theorem isReadable_toString {n : Int} (h : IsWritable n) : IsReadable (toString n).toList n := by
  obtain ⟨ds, hds, hvalue, hlength, hlead⟩ := exists_digits n.natAbs
  have hmagnitude : Magnitude ((Nat.toDigits 10 n.natAbs).map asciiDigit) 10 ds :=
    .decimal hds fun hzero d hd => by
      rw [hlead hzero] at hd
      exact List.mem_singleton.mp hd
  have hwithin : IsWithin 10 ds := fun _ => hlength.trans_le h
  cases n with
  | ofNat n =>
    have hspelling := Spelling.unsigned hmagnitude
    rw [hvalue] at hspelling
    rw [toList_toString_ofNat]
    exact ⟨10, ds, hspelling, hwithin⟩
  | negSucc n =>
    have hspelling := Spelling.minus hmagnitude
    rw [hvalue] at hspelling
    rw [toList_toString_negSucc]
    exact ⟨10, ds, hspelling, hwithin⟩

theorem isBlank_of_isDigit {c : Char} (h : c.isDigit = true) : Text.isBlank c = false := by
  have hrange : 48 ≤ c.toNat ∧ c.toNat ≤ 57 := by
    simpa [Char.isDigit, UInt32.le_iff_toNat_le] using h
  simp only [Text.isBlank, Bool.or_eq_false_iff, Bool.and_eq_false_iff, decide_eq_false_iff_not,
    beq_eq_false_iff_ne]
  omega

/-- What is written of a number is one word. -/
theorem isWord_toString (n : Int) : Text.IsWord (toString n).toList := by
  have hdigits (n : Nat) : ∀ c ∈ Nat.toDigits 10 n, Text.isBlank c = false := fun c hc =>
    isBlank_of_isDigit (Nat.isDigit_of_mem_toDigits (by decide) (by decide) hc)
  cases n with
  | ofNat n =>
    rw [toList_toString_ofNat]
    exact ⟨Nat.toDigits_ne_nil, hdigits n⟩
  | negSucc n =>
    rw [toList_toString_negSucc]
    exact ⟨List.cons_ne_nil _ _, List.forall_mem_cons.mpr ⟨by decide, hdigits (n + 1)⟩⟩

/-! ### Decimal literals that are too long -/

/-- Decimal digits beyond the limit are not read, whatever their value. -/
theorem not_isReadable_of_long {s : List Char} {ds : List Nat}
    (h : Digits 10 (s.map asciiDigit) ds) (long : maxDecimalDigits < ds.length) (n : Int) :
    ¬ IsReadable s n := by
  rintro ⟨base, read, hspelling, hwithin⟩
  generalize s.map asciiDigit = t at h hspelling
  cases hspelling with
  | unsigned hmagnitude =>
    cases hmagnitude with
    | decimal hread _ =>
      have hsame : ds = read :=
        Option.some.inj ((digits?_eq_some_iff.mpr h).symm.trans (digits?_eq_some_iff.mpr hread))
      rw [hsame] at long
      exact Nat.not_le.mpr long (hwithin rfl)
    | marked hmark _ => exact not_digits_marked hmark _ _ h
    | spaced hmark _ => exact not_digits_marked hmark _ _ h
  | plus _ => exact not_digits_cons (by decide) _ ds h
  | minus _ => exact not_digits_cons (by decide) _ ds h

/-- Zeros and nothing else. -/
theorem digits_zeros (count : Nat) :
    Digits 10 ((List.replicate (count + 1) '0').map asciiDigit) (List.replicate (count + 1) 0) := by
  rw [List.map_replicate]
  induction count with
  | zero => exact .last rfl
  | succ count ih => exact .next rfl ih

/-- Any number of zeros is a literal of the value zero. -/
theorem isLiteral_zeros (count : Nat) : IsLiteral (List.replicate (count + 1) '0') 0 := by
  have hzeros : ∀ d ∈ List.replicate (count + 1) 0, d = 0 := fun _ => List.eq_of_mem_replicate
  have hspelling := Spelling.unsigned (.decimal (digits_zeros count) fun _ => hzeros)
  rw [(ofDigits_eq_zero_iff (Nat.succ_pos 9)).mpr hzeros] at hspelling
  exact ⟨10, _, hspelling⟩

end BroadcastGuide.Numeral
