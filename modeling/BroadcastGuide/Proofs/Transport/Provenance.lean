import BroadcastGuide.Proofs.Transport.Blocks
import BroadcastGuide.Proofs.Transport.Reassembly
import Mathlib.Data.List.Forall2
import Mathlib.Data.List.SplitBy

/-! Where the bytes of a section come from, whatever packets a stream holds: each section is one
piece of what packets with consecutive counters bring. -/

namespace BroadcastGuide.Transport

/-! ### Runs of packets -/

/-- What a packet brings of sections: its payload without the pointer. -/
def Packet.content (p : Packet) : Octets := if p.startsUnit then p.payload.drop 1 else p.payload

def content (packets : List Packet) : Octets := packets.flatMap (·.content)

def accepted (pid : Int) (last : Option Nat) : List Packet → List Packet
  | [] => []
  | p :: rest =>
    if p.isAccepted pid last then p :: accepted pid (some p.counter) rest
    else accepted pid last rest

def Packet.precedes (p q : Packet) : Bool := q.counter == (p.counter + 1) % 16

/-- The packets that count, in runs. A run ends where a counter is not the one expected. -/
def counterRuns (pid : Int) (packets : List Packet) : List (List Packet) :=
  (accepted pid none packets).splitBy Packet.precedes

def lastCounter (last : Option Nat) (counted : List Packet) : Option Nat :=
  (counted.getLast?.map (·.counter)).or last

theorem lastCounter_cons (last : Option Nat) (p : Packet) (counted : List Packet) :
    lastCounter last (p :: counted) = lastCounter (some p.counter) counted := by
  cases h : counted.getLast? with
  | none => simp [lastCounter, List.getLast?_cons, h]
  | some q => simp [lastCounter, List.getLast?_cons, h]

theorem accepted_concat (pid : Int) (last : Option Nat) (packets : List Packet) (p : Packet) :
    accepted pid last (packets ++ [p]) = accepted pid last packets ++
      if p.isAccepted pid (lastCounter last (accepted pid last packets)) then [p] else [] := by
  induction packets generalizing last with
  | nil => rfl
  | cons q rest ih =>
    rw [List.cons_append, accepted, accepted]
    split
    · rw [ih, lastCounter_cons, List.cons_append]
    · exact ih last

section Concat

variable {α : Type} {r : α → α → Bool} {l : List α} {x y : α}

theorem exists_splitBy_concat (hx : l.getLast? = some x) (h : r x y = true) :
    ∃ earlier current, l.splitBy r = earlier ++ [current] ∧
      (l ++ [y]).splitBy r = earlier ++ [current ++ [y]] := by
  have hl : l.splitBy r ≠ [] := List.splitBy_ne_nil.mpr fun hnil => by simp [hnil] at hx
  obtain ⟨earlier, current, hruns⟩ := (List.eq_nil_or_concat' _).resolve_left hl
  refine ⟨earlier, current, hruns, ?_⟩
  obtain ⟨hflat, hnil, hchains, hbreaks⟩ := List.splitBy_eq_iff.mp hruns
  have hcurrent : current ≠ [] := fun h' => hnil (by simp [h'])
  have hlast : current.getLast? = some x := by
    rw [hflat, List.flatten_append, List.flatten_singleton,
      List.getLast?_append_of_ne_nil _ hcurrent] at hx
    exact hx
  rw [List.isChain_append] at hbreaks
  refine List.splitBy_eq_iff.mpr ⟨by simp [hflat], ?_, ?_, ?_⟩
  · simpa using fun hmem => hnil (List.mem_append_left _ hmem)
  · intro run hrun
    rcases List.mem_append.mp hrun with hrun | hrun
    · exact hchains run (List.mem_append_left _ hrun)
    · rw [List.mem_singleton.mp hrun, List.isChain_append]
      refine ⟨hchains current (List.mem_append_right _ List.mem_cons_self), .singleton y, ?_⟩
      intro a ha b hb
      rw [hlast] at ha
      cases ha
      cases hb
      exact h
  · rw [List.isChain_append]
    refine ⟨hbreaks.1, .singleton _, ?_⟩
    intro a ha b hb
    obtain ⟨ha', hcurrent', hbreak⟩ := hbreaks.2.2 a ha current rfl
    cases hb
    refine ⟨ha', by simp, ?_⟩
    rwa [List.head_append_of_ne_nil hcurrent]

end Concat

/-- A packet that counts and does not go on with the last run begins one. -/
theorem counterRuns_begins {pid : Int} {packets : List Packet} {p : Packet}
    (counted : accepted pid none (packets ++ [p]) = accepted pid none packets ++ [p])
    (breaks : ∀ q ∈ (accepted pid none packets).getLast?, q.precedes p = false) :
    counterRuns pid (packets ++ [p]) = counterRuns pid packets ++ [[p]] := by
  rw [counterRuns, counted, List.splitBy_append_cons [] breaks, counterRuns]
  rfl

/-! ### Sections in a byte string -/

/-- Sections that lie in a byte string one after another. Other bytes may stand between them. -/
inductive LieIn : List WholeSection → Octets → Prop
  | nil (gap : Octets) : LieIn [] gap
  | cons (gap : Octets) (w : WholeSection) {sections : List WholeSection} {rest : Octets}
      (tail : LieIn sections rest) : LieIn (w :: sections) (gap ++ (w.bytes ++ rest))

namespace LieIn

variable {sections later : List WholeSection} {bytes more : Octets}

theorem of_gap (gap : Octets) (h : LieIn sections bytes) : LieIn sections (gap ++ bytes) := by
  cases h with
  | nil => exact .nil _
  | cons gap' w tail =>
    rw [← List.append_assoc]
    exact .cons _ w tail

theorem append (h : LieIn sections bytes) (h' : LieIn later more) :
    LieIn (sections ++ later) (bytes ++ more) := by
  induction h with
  | nil gap => exact h'.of_gap gap
  | cons gap w _ ih =>
    rw [List.append_assoc, List.append_assoc]
    exact .cons gap w ih

theorem whole (sections : List WholeSection) : LieIn sections (sections.flatMap (·.bytes)) := by
  induction sections with
  | nil => exact .nil []
  | cons w rest ih => exact .cons [] w ih

end LieIn

/-- Sections cut out of a byte string, and the one in progress, if there is one: the bytes at the
end, fewer than they declare. -/
structure Cut (sections : List WholeSection) (bytes : Octets) (part : Option Octets) : Prop where
  split : ∃ before after, bytes = before ++ after ∧ LieIn sections before ∧ ∀ p ∈ part, p = after
  short : ∀ p ∈ part, p.length < 3 + declaredLength p

namespace Cut

variable {sections : List WholeSection} {bytes : Octets} {part : Option Octets}

theorem lieIn (h : Cut sections bytes part) : LieIn sections bytes := by
  obtain ⟨before, after, rfl, hlie, -⟩ := h.split
  simpa using hlie.append (.nil after)

theorem restart (h : Cut sections bytes part) : Cut sections bytes (some []) where
  split := ⟨bytes, [], (List.append_nil bytes).symm, h.lieIn, by simp⟩
  short p hp := by
    cases hp
    rw [List.length_nil]
    omega

theorem empty : Cut [] [] none := ⟨⟨[], [], rfl, .nil [], by simp⟩, by simp⟩

end Cut

/-- Bytes that are enough for the section at their head, and do not begin with stuffing. -/
theorem exists_whole_take {b : UInt8} {rest : Octets} (hb : ¬b = 0xFF)
    (henough : ¬(rest.length + 1 < 3 ∨ rest.length + 1 < 3 + declaredLength (b :: rest))) :
    ∃ w : WholeSection, w.bytes = (b :: rest).take (3 + declaredLength (b :: rest)) := by
  refine ⟨⟨_, ?_, ?_⟩, rfl⟩
  · rw [declaredLength_take (by omega), List.length_take, List.length_cons]
    omega
  · rw [Nat.add_comm, List.take_succ_cons, List.head?_cons]
    simpa using hb

/-- Splitting moves out whole sections from the front and keeps less than a whole one. -/
theorem splitSections_cut (bytes : Octets) :
    ∃ ws : List WholeSection, (splitSections bytes).1 = ws.flatMap (·.bytes) ∧
      Cut ws bytes (splitSections bytes).2 := by
  fun_induction splitSections bytes with
  | case1 =>
    refine ⟨[], rfl, ⟨[], [], rfl, .nil [], by simp⟩, ?_⟩
    intro p hp
    cases hp
    rw [List.length_nil]
    omega
  | case2 rest => exact ⟨[], rfl, ⟨[], _, rfl, .nil [], by simp⟩, by simp⟩
  | case3 b rest hb size hshort =>
    refine ⟨[], rfl, ⟨[], _, rfl, .nil [], by simp⟩, ?_⟩
    intro p hp
    cases hp
    simp only [List.length_cons]
    omega
  | case4 b rest hb size henough tail ih =>
    obtain ⟨ws, hws, ⟨before, after, hbytes, hlie, hpart⟩, hshort⟩ := ih
    obtain ⟨w, hw⟩ := exists_whole_take hb henough
    refine ⟨w :: ws, ?_, ⟨w.bytes ++ before, after, ?_, .cons [] w hlie, hpart⟩, hshort⟩
    · rw [List.flatMap_cons, ← hws, hw]
    · rw [List.append_assoc, ← hbytes, hw, List.take_append_drop]

namespace SectionSource

variable {s : SectionSource} {sections : List WholeSection} {bytes : Octets}

theorem collect_cut (h : Cut sections bytes s.inProgress) (more : Octets) :
    ∃ ws part, s.collect more =
        { s with ready := s.ready ++ ws.flatMap (·.bytes), inProgress := part } ∧
      Cut (sections ++ ws) (bytes ++ more) part := by
  obtain ⟨⟨before, after, hbytes, hlie, hpart⟩, -⟩ := h
  cases hs : s.inProgress with
  | none =>
    refine ⟨[], none, collect_idle hs more, ?_⟩
    rw [List.append_nil]
    exact ⟨⟨before, after ++ more, by rw [hbytes, List.append_assoc], hlie, by simp⟩, by simp⟩
  | some begun =>
    rw [hpart begun hs] at hs
    obtain ⟨ws, hws, ⟨before', after', hbytes', hlie', hpart'⟩, hshort'⟩ :=
      splitSections_cut (after ++ more)
    refine ⟨ws, (splitSections (after ++ more)).2, by rw [collect_of_some hs, hws], ?_⟩
    refine ⟨⟨before ++ before', after', ?_, hlie.append hlie', hpart'⟩, hshort'⟩
    rw [hbytes, List.append_assoc, hbytes', List.append_assoc]

/-- A packet that counts adds to the bytes of its run what it brings. A pointer that ends the
section in progress, or one that does not, makes no difference to that. -/
theorem takePayload_cut (h : Cut sections bytes s.inProgress) (p : Packet) :
    ∃ ws part, s.takePayload p =
        { s with ready := s.ready ++ ws.flatMap (·.bytes), inProgress := part } ∧
      Cut (sections ++ ws) (bytes ++ p.content) part := by
  by_cases unit : p.startsUnit = true
  · let pointer := (p.payload.headD 0).toNat
    let body := p.payload.drop 1
    obtain ⟨ws, part, hahead, hcut⟩ := collect_cut h (body.take pointer)
    -- what the pointer leaves of the section in progress is a gap
    obtain ⟨ws', part', hrest, hcut'⟩ :=
      collect_cut (s := { s.collect (body.take pointer) with inProgress := some [] }) hcut.restart
        (body.drop pointer)
    refine ⟨ws ++ ws', part', ?_, ?_⟩
    · rw [takePayload, if_pos unit]
      dsimp only
      rw [hrest, hahead, List.flatMap_append, List.append_assoc]
    · rw [List.append_assoc, List.append_assoc, List.take_append_drop] at hcut'
      rwa [Packet.content, if_pos unit]
  · rw [takePayload, if_neg unit, Packet.content, if_neg unit]
    exact collect_cut h p.payload

theorem collect_congr {t : SectionSource} (same : s.inProgress = t.inProgress) (more : Octets) :
    ∃ out part, s.collect more = { s with ready := s.ready ++ out, inProgress := part } ∧
      t.collect more = { t with ready := t.ready ++ out, inProgress := part } := by
  cases ht : t.inProgress with
  | none => exact ⟨[], none, collect_idle (same.trans ht) more, collect_idle ht more⟩
  | some begun => exact ⟨_, _, collect_of_some (same.trans ht) more, collect_of_some ht more⟩

/-- What a packet adds depends on the section in progress alone. -/
theorem takePayload_congr {t : SectionSource} (same : s.inProgress = t.inProgress) (p : Packet) :
    ∃ out part, s.takePayload p = { s with ready := s.ready ++ out, inProgress := part } ∧
      t.takePayload p = { t with ready := t.ready ++ out, inProgress := part } := by
  by_cases unit : p.startsUnit = true
  · let ahead := (p.payload.drop 1).take (p.payload.headD 0).toNat
    obtain ⟨out, part, hs, ht⟩ := collect_congr same ahead
    obtain ⟨out', part', hs', ht'⟩ :=
      collect_congr (s := { s.collect ahead with inProgress := some [] })
        (t := { t.collect ahead with inProgress := some [] }) rfl
        ((p.payload.drop 1).drop (p.payload.headD 0).toNat)
    refine ⟨out ++ out', part', ?_, ?_⟩
    · rw [takePayload, if_pos unit]
      dsimp only
      rw [hs', hs, List.append_assoc]
    · rw [takePayload, if_pos unit]
      dsimp only
      rw [ht', ht, List.append_assoc]
  · rw [takePayload, if_neg unit, takePayload, if_neg unit]
    exact collect_congr same p.payload

end SectionSource

/-! ### A whole stream -/

/-- Where a source stands after runs of packets: what it has made ready lies in what the runs bring,
and what it has in progress is at the end of the last run. -/
inductive Traced : List (List Packet) → SectionSource → Prop
  | idle {s : SectionSource} (ready : s.ready = []) (idle : s.inProgress = none) : Traced [] s
  | within {s : SectionSource} {runs earlier : List (List Packet)} {current : List Packet}
      {found : List (List WholeSection)} {sections : List WholeSection}
      (split : runs = earlier ++ [current])
      (ready : s.ready = (found ++ [sections]).flatten.flatMap (·.bytes))
      (lie : List.Forall₂ LieIn found (earlier.map content))
      (cut : Cut sections (content current) s.inProgress) : Traced runs s

namespace Traced

variable {s t : SectionSource} {runs earlier : List (List Packet)} {current : List Packet}

theorem congr (h : Traced runs s) (ready : t.ready = s.ready)
    (same : t.inProgress = s.inProgress) : Traced runs t := by
  cases h with
  | idle empty idle => exact .idle (ready.trans empty) (same.trans idle)
  | within split filled lie cut => exact .within split (ready.trans filled) lie (same ▸ cut)

theorem inProgress_eq_none (h : Traced [] s) : s.inProgress = none := by
  cases h with
  | idle _ idle => exact idle
  | within split => simp at split

theorem short (h : Traced runs s) :
    ∀ part ∈ s.inProgress, part.length < 3 + declaredLength part := by
  cases h with
  | idle _ idle => simp [idle]
  | within _ _ _ cut => exact cut.short

theorem exists_lieIn (h : Traced runs s) :
    ∃ found : List (List WholeSection), s.ready = found.flatten.flatMap (·.bytes) ∧
      List.Forall₂ LieIn found (runs.map content) := by
  cases h with
  | idle ready => exact ⟨[], ready, .nil⟩
  | within split ready lie cut =>
    refine ⟨_, ready, ?_⟩
    rw [split, List.map_append]
    exact List.rel_append lie (.cons cut.lieIn .nil)

theorem goesOn (h : Traced (earlier ++ [current]) s) (p : Packet) :
    Traced (earlier ++ [current ++ [p]]) (s.takePayload p) := by
  generalize hruns : earlier ++ [current] = runs at h
  cases h with
  | idle => simp at hruns
  | within split ready lie cut =>
    rename_i found sections
    obtain ⟨rfl, hcurrent⟩ := List.append_inj' (hruns.trans split) rfl
    cases hcurrent
    obtain ⟨ws, part, htaken, hcut⟩ := SectionSource.takePayload_cut cut p
    rw [htaken]
    have hready : s.ready ++ ws.flatMap (·.bytes) =
        (found ++ [sections ++ ws]).flatten.flatMap (·.bytes) := by simp [ready]
    refine .within rfl hready lie ?_
    simpa [content] using hcut

theorem begins (h : Traced runs s) (ready : t.ready = s.ready) (lost : t.inProgress = none)
    (p : Packet) : Traced (runs ++ [[p]]) (t.takePayload p) := by
  obtain ⟨found, hready, hlie⟩ := h.exists_lieIn
  have hcut : Cut [] [] t.inProgress := lost ▸ .empty
  obtain ⟨ws, part, htaken, hcut'⟩ := SectionSource.takePayload_cut hcut p
  rw [htaken]
  have hready' : t.ready ++ ws.flatMap (·.bytes) =
      (found ++ [ws]).flatten.flatMap (·.bytes) := by simp [ready, hready]
  refine .within rfl hready' hlie ?_
  simpa [content] using hcut'

end Traced

/-- What a source knows of the packets that it has taken in. -/
structure Follows (pid : Int) (packets : List Packet) (s : SectionSource) : Prop where
  pid_eq : s.pid = pid
  last : s.lastCounter = lastCounter none (accepted pid none packets)
  errors : s.counterErrors = (counterRuns pid packets).length - 1
  traced : Traced (counterRuns pid packets) s

namespace Follows

variable {pid : Int} {packets : List Packet} {s t : SectionSource}

theorem start (stream : Delivery) (pid : Int) : Follows pid [] (.ofStream stream pid) :=
  ⟨rfl, rfl, rfl, .idle rfl rfl⟩

theorem took {p : Packet} (pid_eq : s.pid = pid)
    (counted : accepted pid none (packets ++ [p]) = accepted pid none packets ++ [p])
    (last : s.lastCounter = some p.counter)
    (errors : s.counterErrors = (counterRuns pid (packets ++ [p])).length - 1)
    (traced : Traced (counterRuns pid (packets ++ [p])) (s.takePayload p)) :
    Follows pid (packets ++ [p]) (s.takePayload p) := by
  have hlast : lastCounter none (accepted pid none (packets ++ [p])) = some p.counter := by
    simp [counted, lastCounter]
  obtain ⟨out, part, htaken, -⟩ := SectionSource.takePayload_congr (s := s) rfl p
  exact ⟨by rw [htaken, pid_eq], by rw [htaken, last, hlast], by rw [htaken, errors], traced⟩

theorem accepted_append (h : Follows pid packets s) (p : Packet) :
    accepted pid none (packets ++ [p]) =
      accepted pid none packets ++ if p.isAccepted s.pid s.lastCounter then [p] else [] := by
  rw [accepted_concat, h.pid_eq, h.last]

theorem runs_of_refused {p : Packet} (h : Follows pid packets s)
    (refused : p.isAccepted s.pid s.lastCounter = false) :
    counterRuns pid (packets ++ [p]) = counterRuns pid packets := by
  have hconcat := h.accepted_append p
  rw [refused, if_neg Bool.false_ne_true, List.append_nil] at hconcat
  rw [counterRuns, hconcat, counterRuns]

theorem passes {p : Packet} (h : Follows pid packets s)
    (refused : p.isAccepted s.pid s.lastCounter = false) : Follows pid (packets ++ [p]) s := by
  have hconcat := h.accepted_append p
  rw [refused, if_neg Bool.false_ne_true, List.append_nil] at hconcat
  have hruns := h.runs_of_refused refused
  exact ⟨h.pid_eq, by rw [hconcat, h.last], by rw [hruns, h.errors], hruns ▸ h.traced⟩

/-- A packet with the counter expected begins the first run, or goes on with the last. -/
theorem runs_of_next {p : Packet} (h : Follows pid packets s)
    (counts : p.isAccepted s.pid s.lastCounter = true)
    (expected : ∀ last ∈ s.lastCounter, p.counter = (last + 1) % 16) :
    (counterRuns pid packets = [] ∧ counterRuns pid (packets ++ [p]) = [[p]]) ∨
      ∃ earlier current, counterRuns pid packets = earlier ++ [current] ∧
        counterRuns pid (packets ++ [p]) = earlier ++ [current ++ [p]] := by
  have hconcat := h.accepted_append p
  rw [counts, if_pos rfl] at hconcat
  cases hq : (accepted pid none packets).getLast? with
  | none =>
    have hnil : counterRuns pid packets = [] := by
      rw [counterRuns, List.splitBy_eq_nil, List.getLast?_eq_none_iff.mp hq]
    have hruns := counterRuns_begins hconcat (by simp [hq])
    rw [hnil, List.nil_append] at hruns
    exact Or.inl ⟨hnil, hruns⟩
  | some q =>
    have hprecedes : Packet.precedes q p = true := by
      have hnext := expected q.counter (by simp [h.last, lastCounter, hq])
      simpa [Packet.precedes] using hnext
    obtain ⟨earlier, current, hruns, hruns'⟩ := exists_splitBy_concat hq hprecedes
    rw [← hconcat] at hruns'
    exact Or.inr ⟨earlier, current, hruns, hruns'⟩

/-- A packet with another counter begins a run. -/
theorem runs_of_jump {p : Packet} {last : Nat} (h : Follows pid packets s)
    (counts : p.isAccepted s.pid s.lastCounter = true) (hlast : s.lastCounter = some last)
    (other : p.counter ≠ (last + 1) % 16) :
    counterRuns pid packets ≠ [] ∧
      counterRuns pid (packets ++ [p]) = counterRuns pid packets ++ [[p]] := by
  have hconcat := h.accepted_append p
  rw [counts, if_pos rfl] at hconcat
  obtain ⟨q, hq, hcounter⟩ : ∃ q, (accepted pid none packets).getLast? = some q ∧
      q.counter = last := by
    simpa [h.last, lastCounter] using hlast
  constructor
  · rw [counterRuns, List.splitBy_ne_nil]
    intro hnil
    simp [hnil] at hq
  · refine counterRuns_begins hconcat ?_
    intro q' hq'
    rw [hq] at hq'
    cases hq'
    simpa [Packet.precedes, hcounter] using other

theorem next {p : Packet} (h : Follows pid packets s)
    (counts : p.isAccepted s.pid s.lastCounter = true)
    (expected : ∀ last ∈ s.lastCounter, p.counter = (last + 1) % 16) :
    Follows pid (packets ++ [p]) ({ s with lastCounter := some p.counter }.takePayload p) := by
  have hconcat := h.accepted_append p
  have herrors := h.errors
  rw [counts, if_pos rfl] at hconcat
  have htraced : Traced (counterRuns pid packets) { s with lastCounter := some p.counter } :=
    h.traced.congr rfl rfl
  rcases h.runs_of_next counts expected with ⟨hnil, hruns⟩ | ⟨earlier, current, hruns, hruns'⟩
  · rw [hnil] at herrors htraced
    refine took h.pid_eq hconcat rfl (by rw [hruns]; exact herrors) ?_
    rw [hruns]
    exact htraced.begins rfl htraced.inProgress_eq_none p
  · rw [hruns] at herrors htraced
    refine took h.pid_eq hconcat rfl ?_ ?_
    · rw [hruns']
      simpa using herrors
    · rw [hruns']
      exact htraced.goesOn p

/-- The section in progress is given up with a packet that begins a run. -/
theorem jump {p : Packet} {last : Nat} (h : Follows pid packets s)
    (counts : p.isAccepted s.pid s.lastCounter = true) (hlast : s.lastCounter = some last)
    (other : p.counter ≠ (last + 1) % 16) :
    Follows pid (packets ++ [p]) ({ s with
      lastCounter := some p.counter
      counterErrors := s.counterErrors + 1
      inProgress := none }.takePayload p) := by
  have hconcat := h.accepted_append p
  have herrors := h.errors
  rw [counts, if_pos rfl] at hconcat
  obtain ⟨hsome, hruns⟩ := h.runs_of_jump counts hlast other
  refine took h.pid_eq hconcat rfl ?_ ?_
  · rw [hruns, List.length_append, List.length_singleton, Nat.add_sub_cancel]
    have := List.length_pos_iff.mpr hsome
    dsimp only
    omega
  · rw [hruns]
    exact h.traced.begins (t := { s with
      lastCounter := some p.counter
      counterErrors := s.counterErrors + 1
      inProgress := none }) rfl rfl p

theorem feed (h : Follows pid packets s) (p : Packet) :
    Follows pid (packets ++ [p]) (s.feed p) := by
  rcases s.feed_cases p with refused | ⟨counts, expected⟩ | ⟨counts, last, hlast, other⟩
  · rw [SectionSource.feed_of_refused refused]
    exact h.passes refused
  · rw [SectionSource.feed_of_next counts expected]
    exact h.next counts expected
  · rw [SectionSource.feed_of_jump counts hlast other]
    exact h.jump counts hlast other

theorem counted (h : Follows pid packets s) :
    Follows pid packets { s with packets := s.packets + 1 } :=
  ⟨h.pid_eq, h.last, h.errors, h.traced.congr rfl rfl⟩

theorem feedBytes (h : Follows pid packets s) (block : Octets) :
    Follows pid (packets ++ readable [block]) (s.feedBytes block) := by
  unfold SectionSource.feedBytes readable
  cases hp : Packet.ofBytes block with
  | error e => simpa [hp, Except.toOption] using h.counted
  | ok p => simpa [hp, Except.toOption] using h.counted.feed p

theorem foldl (h : Follows pid packets s) (blocks : List Octets) :
    Follows pid (packets ++ readable blocks) (blocks.foldl SectionSource.feedBytes s) := by
  induction blocks generalizing packets s with
  | nil => simpa [readable] using h
  | cons block rest ih =>
    have hsplit : readable (block :: rest) = readable [block] ++ readable rest := by
      rw [readable, readable, readable, ← List.filterMap_append, List.singleton_append]
    rw [hsplit, ← List.append_assoc]
    exact ih (h.feedBytes block)

end Follows

/-- Whatever packets a stream holds, what is read out of it, in any pieces, are whole sections. Each
is one piece of what packets with consecutive counters bring, in order and apart from the others, so
none goes over a loss that was counted. After any of the packets the section in progress, if there
is one, is shorter than it declares. -/
theorem readOut_provenance (pid : Int) (stream : Delivery) {sizes : Nat → Nat}
    (positive : ∀ i, 0 < sizes i) :
    let out := readOut sizes (SectionSource.ofStream stream pid)
    let counted := accepted pid none (readable (blocks stream))
    let runs := counterRuns pid (readable (blocks stream))
    let after := fun taken : List Octets =>
      taken.foldl SectionSource.feedBytes (.ofStream stream pid)
    (∃ found : List (List WholeSection), out.1 = found.flatten.flatMap (·.bytes) ∧
        List.Forall₂ LieIn found (runs.map content)) ∧
      (runs.flatten = counted ∧
        ∀ run ∈ runs, run.IsChain fun p q => q.counter = (p.counter + 1) % 16) ∧
      out.2.counterErrors = runs.length - 1 ∧
      out.1 = (after (blocks stream)).ready ∧
      ∀ taken, taken <+: blocks stream → ∀ part ∈ (after taken).inProgress,
        part.length < 3 + declaredLength part ∧ part.length ≤ 4097 := by
  intro out counted runs after
  have follows (taken : List Octets) : Follows pid (readable taken) (after taken) := by
    simpa using (Follows.start stream pid).foldl taken
  obtain ⟨hready, herrors⟩ :=
    SectionSource.readOut_eq_foldl positive (SectionSource.ofStream stream pid)
  have hall := follows (blocks stream)
  refine ⟨?_, ⟨List.flatten_splitBy _ counted, ?_⟩, herrors.trans hall.errors, hready, ?_⟩
  · obtain ⟨found, hfound, hlie⟩ := hall.traced.exists_lieIn
    exact ⟨found, hready.trans hfound, hlie⟩
  · intro run hrun
    refine (List.isChain_of_mem_splitBy hrun).imp fun p q hpq => ?_
    simpa [Packet.precedes] using hpq
  · intro taken _ part hpart
    have hshort := (follows taken).traced.short part hpart
    have := declaredLength_lt part
    exact ⟨hshort, by omega⟩

/-- The blocks of `lossyBlocks`, and one of a packet with a pointer past its end. -/
def overrunBlocks : List Octets := lossyBlocks ++ [fullBlock true 3 (0xFF :: shortSection.bytes)]

/-- Two runs of packets, one loss between them. -/
theorem readOut_overrunBlocks :
    let out := readOut (fun _ => 64)
      (SectionSource.ofStream ⟨overrunBlocks.flatten, [100, 300]⟩ 0x12)
    out.2.counterErrors = 1 ∧ ∃ first second : List WholeSection,
      out.1 = (first ++ second).flatMap (·.bytes) ∧
        LieIn first (content [fullPacket true 15 (0 :: shortSection.bytes),
          fullPacket true 0 (0 :: longSection.bytes.take 183)]) ∧
        LieIn second (content [fullPacket true 2 (0 :: shortSection.bytes),
          fullPacket true 3 (0xFF :: shortSection.bytes)]) := by
  have positive : ∀ i : Nat, 0 < (fun _ => 64) i := fun _ => Nat.succ_pos 63
  have whole : ∀ block ∈ overrunBlocks, IsBlock block := by
    unfold IsBlock
    decide +kernel
  have hblocks : blocks ⟨overrunBlocks.flatten, [100, 300]⟩ = overrunBlocks :=
    blocks_flatten whole (by decide) rfl
  have hruns : counterRuns 0x12 (readable overrunBlocks) =
      [[fullPacket true 15 (0 :: shortSection.bytes),
        fullPacket true 0 (0 :: longSection.bytes.take 183)],
        [fullPacket true 2 (0 :: shortSection.bytes),
          fullPacket true 3 (0xFF :: shortSection.bytes)]] := by decide +kernel
  obtain ⟨⟨found, hfound, hlie⟩, -, herrors, -⟩ :=
    readOut_provenance 0x12 ⟨overrunBlocks.flatten, [100, 300]⟩ positive
  rw [hblocks, hruns] at hlie herrors
  obtain ⟨first, rest, hfirst, hrest, rfl⟩ := List.forall₂_cons_right_iff.mp hlie
  obtain ⟨second, rest', hsecond, hnil, rfl⟩ := List.forall₂_cons_right_iff.mp hrest
  cases hnil
  exact ⟨herrors, first, second, by simpa using hfound, hfirst, hsecond⟩

end BroadcastGuide.Transport
