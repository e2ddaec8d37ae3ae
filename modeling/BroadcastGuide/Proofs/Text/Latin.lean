import BroadcastGuide.Text.Latin

/-! The default table read in pieces. All that a byte hands on to the next one is the mark that it
announces, so that a text may be cut anywhere but behind a mark. -/

namespace BroadcastGuide.Text.Latin

theorem mark?_eq_none {b : UInt8} (h : isMark b = false) : mark? b.toNat = none := by
  have outside : ¬(0xC0 ≤ b.toNat ∧ b.toNat ≤ 0xCF) := by simpa [isMark] using h
  unfold mark?
  split
  case h_14 => rfl
  all_goals omega

def given (pending : Option Char) (b : UInt8) : List Char :=
  if isMark b then [] else place pending b

/-- Whatever was pending, the next byte finds the mark of this one. -/
theorem decodeFrom_cons (pending : Option Char) (b : UInt8) (rest : Octets) :
    decodeFrom pending (b :: rest) = given pending b ++ decodeFrom (mark? b.toNat) rest := by
  rw [decodeFrom, given]
  cases hb : isMark b with
  | true => rfl
  | false =>
    rw [mark?_eq_none hb]
    rfl

/-- The mark that is pending behind some bytes: that of the last one. -/
def pendingAfter (pending : Option Char) (bytes : Octets) : Option Char :=
  match bytes.getLast? with
  | none => pending
  | some last => mark? last.toNat

theorem pendingAfter_cons (pending : Option Char) (b : UInt8) (rest : Octets) :
    pendingAfter pending (b :: rest) = pendingAfter (mark? b.toNat) rest := by
  cases rest with
  | nil => rfl
  | cons next rest => rw [pendingAfter, pendingAfter, List.getLast?_cons_cons, List.getLast?_cons]

theorem decodeFrom_append (pending : Option Char) (before after : Octets) :
    decodeFrom pending (before ++ after) =
      decodeFrom pending before ++ decodeFrom (pendingAfter pending before) after := by
  induction before generalizing pending with
  | nil => rfl
  | cons b rest ih =>
    rw [List.cons_append, decodeFrom_cons, decodeFrom_cons, ih, pendingAfter_cons,
      List.append_assoc]

theorem decodeFrom_marks {marks : Octets} (h : ∀ m ∈ marks, isMark m = true)
    (pending : Option Char) : decodeFrom pending marks = [] := by
  induction marks generalizing pending with
  | nil => rfl
  | cons m rest ih =>
    obtain ⟨hm, hrest⟩ := List.forall_mem_cons.mp h
    rw [decodeFrom_cons, given, if_pos hm, List.nil_append, ih hrest]

/-- Behind marks in a row the next other byte finds the last of them, and uses it up. -/
theorem decode_marks {marks : Octets} (h : ∀ m ∈ marks, isMark m = true) {last b : UInt8}
    (hlast : isMark last = true) (hb : isMark b = false) (rest : Octets) :
    decode (marks ++ last :: b :: rest) = place (mark? last.toNat) b ++ decode rest := by
  have hgiven : given (pendingAfter none marks) last = [] := if_pos hlast
  have hplace : given (mark? last.toNat) b = place (mark? last.toNat) b :=
    if_neg (ne_true_of_eq_false hb)
  calc decode (marks ++ last :: b :: rest)
      = decodeFrom (pendingAfter none marks) (last :: b :: rest) := by
        rw [decode, decodeFrom_append, decodeFrom_marks h, List.nil_append]
    _ = decodeFrom (mark? last.toNat) (b :: rest) := by
        rw [decodeFrom_cons, hgiven, List.nil_append]
    _ = place (mark? last.toNat) b ++ decode rest := by
        rw [decodeFrom_cons, hplace, mark?_eq_none hb, decode]

/-- A text decodes in pieces if it is cut anywhere but behind a mark. Of marks in a row the last one
goes to the next other byte, and to nothing behind it; an unassigned byte takes it away, and marks
at the end of a text are lost. -/
theorem decode_append :
    (∀ before after : Octets, (∀ last ∈ before.getLast?, isMark last = false) →
        decode (before ++ after) = decode before ++ decode after) ∧
      ∀ marks : Octets, (∀ m ∈ marks, isMark m = true) → decode marks = [] ∧
        ∀ (last b : UInt8) (rest : Octets), isMark last = true → isMark b = false →
          decode (marks ++ last :: b :: rest) = place (mark? last.toNat) b ++ decode rest ∧
            (char? b = none → decode (marks ++ last :: b :: rest) = decode rest) := by
  refine ⟨?_, ?_⟩
  · intro before after cut
    have hpending : pendingAfter none before = none := by
      unfold pendingAfter
      cases hlast : before.getLast? with
      | none => rfl
      | some last => exact mark?_eq_none (cut last hlast)
    rw [decode, decodeFrom_append, hpending]
    rfl
  · intro marks h
    refine ⟨decodeFrom_marks h none, fun last b rest hlast hb => ?_⟩
    have hmarks := decode_marks h hlast hb rest
    refine ⟨hmarks, fun unassigned => ?_⟩
    have hplace : place (mark? last.toNat) b = [] := by simp only [place, unassigned]
    rw [hmarks, hplace, List.nil_append]

/-- Two marks in a row before a letter, a cut, and a mark that an unassigned byte takes away. -/
theorem decode_append_marked :
    let before : Octets := [0xC1, 0xC2, 0x65]
    let after : Octets := [0xC8, 0xDA, 0x75]
    decode (before ++ after) = decode before ++ decode after ∧
      decode (before ++ after) = ['é', 'u'] ∧ decode after = decode [0x75] := by
  intro before after
  obtain ⟨hpieces, hmarks⟩ := decode_append
  have hcut : decode (before ++ after) = decode before ++ decode after :=
    hpieces before after fun last hlast => by
      cases hlast
      decide
  obtain ⟨-, hrow⟩ := hmarks [0xC1] (List.forall_mem_singleton.mpr (by decide))
  obtain ⟨-, hnone⟩ := hmarks [] (List.forall_mem_nil _)
  have hbefore : decode before = place (mark? 0xC2) 0x65 ++ decode [] :=
    (hrow 0xC2 0x65 [] (by decide) (by decide)).1
  have hafter : decode after = decode [0x75] :=
    (hnone 0xC8 0xDA [0x75] (by decide) (by decide)).2 (by decide +kernel)
  refine ⟨hcut, ?_, hafter⟩
  rw [hcut, hbefore, hafter]
  decide +kernel

end BroadcastGuide.Text.Latin
