import BroadcastGuide.Proofs.Section.Scan
import BroadcastGuide.Proofs.Transport.Drain
import BroadcastGuide.Proofs.Transport.Layout

/-! What one packet of a layout does to a section source: it adds the sections that end in it and
leaves the one that goes on in progress. -/

namespace BroadcastGuide.Transport

/-! ### Splitting off whole sections -/

def afterStuffing (n : Nat) : Option Octets := if n = 0 then some [] else none

theorem splitSections_stuffing (n : Nat) :
    splitSections (List.replicate n 0xFF) = ([], afterStuffing n) := by
  cases n with
  | zero => rw [List.replicate_zero, splitSections]; rfl
  | succ n => rw [List.replicate_succ, splitSections, if_pos rfl]; rfl

theorem WholeSection.exists_cons (w : WholeSection) :
    ∃ b rest, w.bytes = b :: rest ∧ b ≠ 0xFF := by
  have hlen := w.length_bytes
  have hstart := w.start
  cases h : w.bytes with
  | nil =>
    rw [h, List.length_nil] at hlen
    omega
  | cons b rest =>
    refine ⟨b, rest, rfl, fun hb => hstart ?_⟩
    rw [h, hb, List.head?_cons]

theorem splitSections_whole (w : WholeSection) (more : Octets) :
    splitSections (w.bytes ++ more) =
      (w.bytes ++ (splitSections more).1, (splitSections more).2) := by
  have hlen := w.length_bytes
  have hdeclared := declaredLength_append (show 3 ≤ w.bytes.length by omega) more
  obtain ⟨b, rest, hw, hb⟩ := w.exists_cons
  have hcons : w.bytes ++ more = b :: (rest ++ more) := by rw [hw, List.cons_append]
  have hsize : 3 + declaredLength (b :: (rest ++ more)) = w.bytes.length := by
    rw [← hcons, hdeclared, hlen]
  have henough : ¬((rest ++ more).length + 1 < 3 ∨
      (rest ++ more).length + 1 < 3 + declaredLength (b :: (rest ++ more))) := by
    rw [hsize, ← List.length_cons (a := b), ← hcons, List.length_append]
    omega
  rw [hcons, splitSections, if_neg hb]
  dsimp only
  rw [if_neg henough, hsize, ← hcons, List.drop_left, List.take_left]

/-- The beginning of a section is kept until the rest is there. -/
theorem splitSections_part {w : WholeSection} {head tail : Octets} (hw : w.bytes = head ++ tail)
    (hh : head ≠ []) (ht : tail ≠ []) : splitSections head = ([], some head) := by
  obtain ⟨b, rest, hcons, hb⟩ := w.exists_cons
  cases head with
  | nil => exact absurd rfl hh
  | cons b' rest' =>
    have hb' : b' ≠ 0xFF := by
      rw [hcons, List.cons_append, List.cons.injEq] at hw
      rwa [← hw.1]
    have hpos := List.length_pos_iff.mpr ht
    have hshort : rest'.length + 1 < 3 ∨
        rest'.length + 1 < 3 + declaredLength (b' :: rest') := by
      by_cases h : (b' :: rest').length < 3
      · exact Or.inl h
      · apply Or.inr
        have hlen := w.length_bytes
        rw [hw, declaredLength_append (by omega), List.length_append, List.length_cons] at hlen
        omega
    rw [splitSections, if_neg hb']
    dsimp only
    rw [if_pos hshort]

theorem splitSections_wholes (sections : List WholeSection) (more : Octets) :
    splitSections (sections.flatMap (·.bytes) ++ more) =
      (sections.flatMap (·.bytes) ++ (splitSections more).1, (splitSections more).2) := by
  induction sections with
  | nil => rfl
  | cons w rest ih =>
    rw [List.flatMap_cons, List.append_assoc, splitSections_whole, ih, List.append_assoc]

/-! ### What one packet does -/

/-- The section in progress has begun with what the packets to come carry the rest of. -/
def Holds (rest : Octets) : Option Octets → Prop
  | none => True
  | some begun => if rest = [] then begun = [] else ∃ w : WholeSection, w.bytes = begun ++ rest

/-- The section in progress, if the packets that carry the rest of it arrive. -/
def opened (u : Unfinished) : Option Octets → Octets
  | none => []
  | some begun => if u.carriers.all (·.arrives) then begun ++ u.rest else []

theorem Holds.eq_nil {begun : Octets} (h : Holds [] (some begun)) : begun = [] := by
  rwa [Holds, if_pos rfl] at h

theorem Holds.exists_whole {rest begun : Octets} (h : Holds rest (some begun)) (hr : rest ≠ []) :
    ∃ w : WholeSection, w.bytes = begun ++ rest := by
  rwa [Holds, if_neg hr] at h

theorem holds_afterStuffing (n : Nat) : Holds [] (afterStuffing n) := by
  unfold afterStuffing
  split <;> simp [Holds]

/-- Between sections nothing is open. -/
theorem opened_none {prog : Option Octets} (h : Holds [] prog) : opened .none prog = [] := by
  cases prog with
  | none => rfl
  | some begun =>
    rw [h.eq_nil]
    rfl

theorem opened_endingIn {rest : Octets} {prog : Option Octets} (h : Holds rest prog) (s : Sent) :
    opened (.endingIn rest s) prog = if s.arrives then prog.elim [] (· ++ rest) else [] := by
  cases prog with
  | none => simp [opened]
  | some begun =>
    by_cases hr : rest = []
    · subst hr
      simp [opened, Unfinished.endingIn, h.eq_nil]
    · simp [opened, Unfinished.endingIn, hr]

namespace SectionSource

theorem collect_idle {src : SectionSource} (h : src.inProgress = none) (bytes : Octets) :
    src.collect bytes = { src with ready := src.ready ++ [], inProgress := none } := by
  rw [collect_of_none h, List.append_nil, ← h]

/-- Taking in the rest of the section in progress finishes it. -/
theorem collect_rest {rest : Octets} (src : SectionSource) (h : Holds rest src.inProgress) :
    ∃ prog, src.collect rest = { src with
      ready := src.ready ++ src.inProgress.elim [] (· ++ rest), inProgress := prog } := by
  cases hp : src.inProgress with
  | none =>
    exact ⟨none, collect_idle hp rest⟩
  | some begun =>
    rw [hp] at h
    rw [collect_of_some hp]
    by_cases hr : rest = []
    · subst hr
      refine ⟨some [], ?_⟩
      rw [h.eq_nil, List.append_nil, splitSections]
      simp
    · obtain ⟨w, hw⟩ := h.exists_whole hr
      have hsplit := splitSections_whole w []
      rw [List.append_nil, splitSections, List.append_nil, hw] at hsplit
      refine ⟨some [], ?_⟩
      rw [hsplit]
      rfl

theorem takePayload_plain {src : SectionSource} {p : Packet} (plain : p.startsUnit = false) :
    src.takePayload p = src.collect p.payload := by
  rw [takePayload, plain]
  exact if_neg Bool.false_ne_true

theorem takePayload_unit {src : SectionSource} {s : Sent} {rest more : Octets}
    (hs : s.arrives = true) (h : Holds rest src.inProgress) (unit : s.packet.startsUnit = true)
    (payload : s.packet.payload = UInt8.ofNat rest.length :: (rest ++ more))
    (room : s.packet.payload.length ≤ 184) :
    src.takePayload s.packet = { src with
      ready := src.ready ++ (opened (.endingIn rest s) src.inProgress ++ (splitSections more).1)
      inProgress := (splitSections more).2 } := by
  have hpointer : (UInt8.ofNat rest.length).toNat = rest.length := by
    rw [payload, List.length_cons, List.length_append] at room
    rw [UInt8.toNat_ofNat', Nat.mod_eq_of_lt (by omega)]
  obtain ⟨prog, hrest⟩ := collect_rest src h
  rw [takePayload, if_pos unit, payload]
  simp only [List.headD_cons, List.drop_one, List.tail_cons, hpointer, List.take_left,
    List.drop_left, hrest]
  rw [collect_of_some rfl, opened_endingIn h, if_pos hs, List.nil_append]
  simp only [List.append_assoc]

/-- A packet that arrives: what it adds, with what the section that is then in progress will add,
are the sections that it carries as far as they are delivered. -/
theorem takePayload_carries {s : Sent} {ahead after : Unfinished} {placed later : List Placed}
    (h : Carries s ahead placed after later) (hs : s.arrives = true)
    (room : s.packet.payload.length ≤ 184) (src : SectionSource)
    (hh : Holds ahead.rest src.inProgress) :
    ∃ out prog, src.takePayload s.packet =
        { src with ready := src.ready ++ out, inProgress := prog } ∧ Holds after.rest prog ∧
      out ++ (opened after prog ++ delivered later) =
        opened ahead src.inProgress ++ delivered placed := by
  cases h with
  | continues plain some_piece some_rest payload =>
    -- the section in progress grows, and still fewer bytes are there than it declares
    rename_i piece rest carriers
    rw [takePayload_plain plain, payload]
    cases hp : src.inProgress with
    | none =>
      exact ⟨[], none, collect_idle hp _, trivial, rfl⟩
    | some begun =>
      rw [hp] at hh
      obtain ⟨w, hw⟩ := hh.exists_whole (List.append_ne_nil_of_left_ne_nil some_piece rest)
      have hw' : w.bytes = (begun ++ piece) ++ rest := by rw [hw, List.append_assoc]
      refine ⟨[], some (begun ++ piece), ?_, ?_, ?_⟩
      · rw [collect_of_some hp, splitSections_part hw' (by simp [some_piece]) some_rest]
      · rw [Holds, if_neg some_rest]
        exact ⟨w, hw'⟩
      · simp [opened, hs]
  | ends stuffing plain some_rest payload =>
    rename_i rest
    rw [takePayload_plain plain, payload]
    cases hp : src.inProgress with
    | none =>
      exact ⟨[], none, collect_idle hp _, trivial, rfl⟩
    | some begun =>
      rw [hp] at hh
      obtain ⟨w, hw⟩ := hh.exists_whole some_rest
      refine ⟨begun ++ rest, afterStuffing stuffing, ?_, holds_afterStuffing stuffing, ?_⟩
      · rw [collect_of_some hp, ← List.append_assoc, ← hw, splitSections_whole,
          splitSections_stuffing, List.append_nil]
      · rw [opened_none (holds_afterStuffing stuffing)]
        simp [opened, hs]
  | whole sections stuffing unit some_sections payload =>
    rename_i rest
    replace hh : Holds rest src.inProgress := hh
    rw [List.append_assoc] at payload
    refine ⟨_, _, takePayload_unit hs hh unit payload room, ?_, ?_⟩
    · rw [splitSections_wholes, splitSections_stuffing]
      exact holds_afterStuffing stuffing
    · rw [splitSections_wholes, splitSections_stuffing, opened_none (holds_afterStuffing stuffing),
        delivered_append, delivered_within, if_pos hs]
      simp only [List.append_nil, List.nil_append, List.append_assoc]
  | begins sections content head tail unit split some_head some_tail payload =>
    rename_i rest carriers
    replace hh : Holds rest src.inProgress := hh
    rw [List.append_assoc] at payload
    refine ⟨_, _, takePayload_unit hs hh unit payload room, ?_, ?_⟩
    · rw [splitSections_wholes, splitSections_part split some_head some_tail, Holds,
        if_neg some_tail]
      exact ⟨content, split⟩
    · rw [splitSections_wholes, splitSections_part split some_head some_tail, delivered_append,
        delivered_within, if_pos hs, delivered_cons]
      simp [opened, Placed.isDelivered, hs, split]

end SectionSource

/-- A packet that is lost takes the section in progress and all that it carries with it. -/
theorem Carries.lost {s : Sent} {ahead after : Unfinished} {placed later : List Placed}
    (h : Carries s ahead placed after later) (hs : s.arrives = false) {prog : Option Octets}
    (hh : Holds ahead.rest prog) : opened ahead prog ++ delivered placed = delivered later := by
  cases h with
  | continues => cases prog <;> simp [opened, hs]
  | ends => cases prog <;> simp [opened, hs]
  | whole sections stuffing unit some_sections payload =>
    rename_i rest
    have hopened := opened_endingIn (show Holds rest prog from hh) s
    simp [hopened, delivered_append, delivered_within, hs]
  | begins sections content head tail unit split some_head some_tail payload =>
    rename_i rest carriers
    have hopened := opened_endingIn (show Holds rest prog from hh) s
    simp [hopened, delivered_append, delivered_within, delivered_cons, Placed.isDelivered, hs]

end BroadcastGuide.Transport
