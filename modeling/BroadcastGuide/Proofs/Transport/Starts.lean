import BroadcastGuide.Proofs.Transport.Provenance

/-! Where sections start. The first one of a unit starts where a pointer says; but the bytes that
come after it are split on, whatever packet brings them. -/

namespace BroadcastGuide.Transport

/-- The number of bytes that stand ahead of the unit that starts in a packet. -/
def Packet.pointer (p : Packet) : Nat := (p.payload.headD 0).toNat

/-! ### Places in what a run brings -/

/-- A packet of a run in which a unit starts, and the place of the first byte that it brings. -/
def UnitAt (run : List Packet) (p : Packet) (first : Nat) : Prop :=
  ∃ before after, run = before ++ p :: after ∧ p.startsUnit = true ∧ first = (content before).length

def IsPointed (run : List Packet) (place : Nat) : Prop :=
  ∃ p first, UnitAt run p first ∧ p.pointer < p.content.length ∧ place = first + p.pointer

/-- A byte of a packet in which a unit starts, not ahead of the one that its pointer designates. -/
def IsDesignated (run : List Packet) (place : Nat) : Prop :=
  ∃ p first, UnitAt run p first ∧ first + p.pointer ≤ place ∧ place < first + p.content.length

/-- The end of a packet of which the pointer leads past that end. -/
def IsPastEnd (run : List Packet) (place : Nat) : Prop :=
  ∃ p first, UnitAt run p first ∧ p.content.length ≤ p.pointer ∧ place = first + p.content.length

/-- Where the source takes a unit to start. -/
def BeginsUnit (run : List Packet) (place : Nat) : Prop := IsPointed run place ∨ IsPastEnd run place

theorem content_concat (run : List Packet) (p : Packet) :
    content (run ++ [p]) = content run ++ p.content := by
  simp [content]

theorem UnitAt.concat {run : List Packet} {p : Packet} {first : Nat} (h : UnitAt run p first)
    (q : Packet) : UnitAt (run ++ [q]) p first := by
  obtain ⟨before, after, rfl, unit, hfirst⟩ := h
  refine ⟨before, after ++ [q], ?_, unit, hfirst⟩
  rw [List.append_assoc, List.cons_append]

theorem BeginsUnit.concat {run : List Packet} {place : Nat} (h : BeginsUnit run place)
    (q : Packet) : BeginsUnit (run ++ [q]) place := by
  rcases h with ⟨p, first, hat, hplace⟩ | ⟨p, first, hat, hplace⟩
  · exact Or.inl ⟨p, first, hat.concat q, hplace⟩
  · exact Or.inr ⟨p, first, hat.concat q, hplace⟩

/-- The unit that starts in the last packet of a run. -/
theorem beginsUnit_concat (run : List Packet) {p : Packet} (unit : p.startsUnit = true) :
    BeginsUnit (run ++ [p]) ((content run).length + min p.pointer p.content.length) := by
  have hat : UnitAt (run ++ [p]) p (content run).length := ⟨run, [], rfl, unit, rfl⟩
  rcases Nat.lt_or_ge p.pointer p.content.length with inside | past
  · exact Or.inl ⟨p, _, hat, inside, by rw [Nat.min_eq_left (Nat.le_of_lt inside)]⟩
  · exact Or.inr ⟨p, _, hat, past, by rw [Nat.min_eq_right past]⟩

theorem IsPointed.isDesignated {run : List Packet} {place : Nat} (h : IsPointed run place) :
    IsDesignated run place := by
  obtain ⟨p, first, hat, inside, rfl⟩ := h
  exact ⟨p, first, hat, Nat.le_refl _, Nat.add_lt_add_left inside first⟩

/-! ### Sections and their places -/

/-- A section is as long as it declares, so it ends at one place only. -/
theorem WholeSection.eq_of_append_eq {w v : WholeSection} {rest more : Octets}
    (h : w.bytes ++ rest = v.bytes ++ more) : w = v ∧ rest = more := by
  have hw := w.length_bytes
  have hv := v.length_bytes
  have hdeclared := declaredLength_append (show 3 ≤ w.bytes.length by omega) rest
  rw [h, declaredLength_append (by omega) more] at hdeclared
  obtain ⟨hbytes, hrest⟩ := List.append_inj h (by omega)
  cases w
  cases v
  cases hbytes
  exact ⟨rfl, hrest⟩

theorem WholeSection.eq_of_flatMap_eq {sections others : List WholeSection}
    (h : sections.flatMap (·.bytes) = others.flatMap (·.bytes)) : sections = others := by
  induction sections generalizing others with
  | nil =>
    rcases others with - | ⟨v, others⟩
    · rfl
    · obtain ⟨b, rest, hv, -⟩ := v.exists_cons
      simp [hv] at h
  | cons w sections ih =>
    rcases others with - | ⟨v, others⟩
    · obtain ⟨b, rest, hw, -⟩ := w.exists_cons
      simp [hw] at h
    · obtain ⟨rfl, htail⟩ := WholeSection.eq_of_append_eq h
      rw [ih htail]

structure Located where
  place : Nat
  whole : WholeSection

def Located.stop (l : Located) : Nat := l.place + l.whole.bytes.length

/-- Where the section after those found may start: where a unit does, or where the last one found
stops. -/
structure MayStart (starts : Nat → Prop) (found : List Located) (place : Nat) : Prop where
  apart : ∀ l ∈ found.getLast?, l.stop ≤ place
  start : starts place ∨ ∃ l ∈ found.getLast?, l.stop = place

/-- Sections found one after another in a byte string. -/
inductive Marked (starts : Nat → Prop) (bytes : Octets) : List Located → Prop
  | nil : Marked starts bytes []
  | concat {found : List Located} (ahead : Marked starts bytes found) (l : Located)
      (may : MayStart starts found l.place) (lies : l.whole.bytes <+: bytes.drop l.place) :
      Marked starts bytes (found ++ [l])

/-- Sections found in a byte string, and the section in progress, if there is one: the bytes from
some place on. -/
structure Opened (starts : Nat → Prop) (bytes : Octets) (found : List Located)
    (part : Option Octets) : Prop where
  marked : Marked starts bytes found
  rest : ∀ p ∈ part, ∃ place ≤ bytes.length, p = bytes.drop place ∧ MayStart starts found place

section Marked

variable {starts later : Nat → Prop} {bytes : Octets} {found : List Located} {place : Nat}

theorem MayStart.mono (h : MayStart starts found place)
    (sub : ∀ place, starts place → later place) : MayStart later found place :=
  ⟨h.apart, h.start.imp_left (sub place)⟩

theorem MayStart.after (l : Located) : MayStart starts (found ++ [l]) l.stop := by
  constructor
  · intro last hlast
    rw [List.getLast?_concat] at hlast
    cases hlast
    exact Nat.le_refl _
  · exact Or.inr ⟨l, List.getLast?_concat, rfl⟩

theorem Located.stop_le {l : Located} (lies : l.whole.bytes <+: bytes.drop l.place) :
    l.stop ≤ bytes.length := by
  have hlength := lies.length_le
  have hwhole := l.whole.length_bytes
  rw [List.length_drop] at hlength
  rw [Located.stop]
  omega

namespace Marked

theorem mono (h : Marked starts bytes found) (sub : ∀ place, starts place → later place)
    (more : Octets) : Marked later (bytes ++ more) found := by
  induction h with
  | nil => exact .nil
  | concat ahead l may lies ih =>
    refine ih.concat l (may.mono sub) ?_
    have hstop := Located.stop_le lies
    rw [List.drop_append_of_le_length (by rw [Located.stop] at hstop; omega)]
    exact lies.trans (List.prefix_append _ more)

theorem stop_le (h : Marked starts bytes found) : ∀ l ∈ found.getLast?, l.stop ≤ bytes.length := by
  cases h with
  | nil => simp
  | concat ahead l may lies =>
    intro last hlast
    rw [List.getLast?_concat] at hlast
    cases hlast
    exact Located.stop_le lies

/-- A section that starts where no unit does starts where the one ahead of it stops. -/
theorem start (h : Marked starts bytes found) :
    ∀ l ∈ found, starts l.place ∨ ∃ e ∈ found, e.stop = l.place := by
  induction h with
  | nil => simp
  | concat ahead l may lies ih =>
    intro l' hl'
    rcases List.mem_append.mp hl' with hl' | hl'
    · rcases ih l' hl' with begins | ⟨e, he, hstop⟩
      · exact Or.inl begins
      · exact Or.inr ⟨e, List.mem_append_left _ he, hstop⟩
    · cases List.mem_singleton.mp hl'
      rcases may.start with begins | ⟨e, he, hstop⟩
      · exact Or.inl begins
      · exact Or.inr ⟨e, List.mem_append_left _ (List.mem_of_getLast? he), hstop⟩

end Marked

/-- Splitting goes on where the section before stops, as long as there is no stuffing. -/
theorem splitSections_marked (h : Marked starts bytes found) (inside : place ≤ bytes.length)
    (may : MayStart starts found place) :
    ∃ more : List Located,
      (splitSections (bytes.drop place)).1 = more.flatMap (·.whole.bytes) ∧
        Opened starts bytes (found ++ more) (splitSections (bytes.drop place)).2 := by
  generalize hrest : bytes.drop place = rest
  -- what is split is the rest of the byte string from the place on that the last section left
  fun_induction splitSections rest generalizing found place with
  | case1 =>
    refine ⟨[], rfl, by rwa [List.append_nil], ?_⟩
    rintro p ⟨⟩
    rw [List.append_nil]
    exact ⟨place, inside, hrest.symm, may⟩
  | case2 rest =>
    refine ⟨[], rfl, by rwa [List.append_nil], ?_⟩
    rintro p ⟨⟩
  | case3 b rest hb _ =>
    refine ⟨[], rfl, by rwa [List.append_nil], ?_⟩
    rintro p ⟨⟩
    rw [List.append_nil]
    exact ⟨place, inside, hrest.symm, may⟩
  | case4 b rest hb size henough =>
    rename_i tail ih
    obtain ⟨w, hw⟩ := exists_whole_take hb henough
    let l : Located := ⟨place, w⟩
    have lies : l.whole.bytes <+: bytes.drop l.place := by
      rw [hrest]
      show w.bytes <+: _
      rw [hw]
      exact List.take_prefix _ _
    have hlength : w.bytes.length = size := by
      rw [hw, List.length_take, List.length_cons]
      omega
    have hdrop : bytes.drop l.stop = (b :: rest).drop size := by
      rw [Located.stop, hlength, ← List.drop_drop, hrest]
    obtain ⟨more, hmore, hopened⟩ := ih (h.concat l may lies) (Located.stop_le lies)
      (MayStart.after l) hdrop
    refine ⟨l :: more, ?_, ?_⟩
    · rw [List.flatMap_cons, ← hmore, hw]
    · rwa [List.append_assoc] at hopened

theorem Opened.mono {part : Option Octets} (h : Opened starts bytes found part)
    (sub : ∀ place, starts place → later place) : Opened later bytes found part where
  marked := by simpa using h.marked.mono sub []
  rest p hp := by
    obtain ⟨place, inside, hrest, may⟩ := h.rest p hp
    exact ⟨place, inside, hrest, may.mono sub⟩

/-- A unit starts at the end of what there is. -/
theorem Opened.restart {part : Option Octets} (h : Opened starts bytes found part)
    (begins : starts bytes.length) : Opened starts bytes found (some []) where
  marked := h.marked
  rest p hp := by
    cases hp
    exact ⟨bytes.length, Nat.le_refl _, by rw [List.drop_length], h.marked.stop_le, Or.inl begins⟩

namespace SectionSource

variable {s : SectionSource}

theorem collect_opened (h : Opened starts bytes found s.inProgress) (added : Octets) :
    ∃ more part, s.collect added =
        { s with ready := s.ready ++ more.flatMap (·.whole.bytes), inProgress := part } ∧
      Opened starts (bytes ++ added) (found ++ more) part := by
  have hmarked : Marked starts (bytes ++ added) found := h.marked.mono (fun _ => id) added
  cases hs : s.inProgress with
  | none =>
    refine ⟨[], none, collect_idle hs added, by rwa [List.append_nil], ?_⟩
    simp
  | some begun =>
    obtain ⟨place, inside, hbegun, may⟩ := h.rest begun hs
    have hdrop : begun ++ added = (bytes ++ added).drop place := by
      rw [hbegun, List.drop_append_of_le_length inside]
    have inside' : place ≤ (bytes ++ added).length := by
      rw [List.length_append]
      omega
    obtain ⟨more, hmore, hopened⟩ := splitSections_marked hmarked inside' may
    refine ⟨more, _, ?_, hopened⟩
    rw [collect_of_some hs, hdrop, hmore]

/-- A packet in which a unit starts ends the section in progress, and begins another where its
pointer says. -/
theorem takePayload_opened {p : Packet} (h : Opened starts bytes found s.inProgress)
    (begins : p.startsUnit = true → starts (bytes.length + min p.pointer p.content.length)) :
    ∃ more part, s.takePayload p =
        { s with ready := s.ready ++ more.flatMap (·.whole.bytes), inProgress := part } ∧
      Opened starts (bytes ++ p.content) (found ++ more) part := by
  by_cases unit : p.startsUnit = true
  · have hcontent : p.content = p.payload.drop 1 := by rw [Packet.content, if_pos unit]
    obtain ⟨ahead, part, hahead, hopened⟩ := collect_opened h (p.content.take p.pointer)
    have hplace : starts (bytes ++ p.content.take p.pointer).length := by
      rw [List.length_append, List.length_take]
      exact begins unit
    obtain ⟨more, part', hmore, hopened'⟩ :=
      collect_opened (s := { s.collect (p.content.take p.pointer) with inProgress := some [] })
        (hopened.restart hplace) (p.content.drop p.pointer)
    refine ⟨ahead ++ more, part', ?_, ?_⟩
    · rw [takePayload, if_pos unit, ← hcontent]
      show SectionSource.collect { s.collect (p.content.take p.pointer) with inProgress := some [] }
        (p.content.drop p.pointer) = _
      rw [hmore, hahead, List.flatMap_append, List.append_assoc]
    · rwa [List.append_assoc, List.append_assoc, List.take_append_drop] at hopened'
  · rw [takePayload, if_neg unit, Packet.content, if_neg unit]
    exact collect_opened h p.payload

end SectionSource

end Marked

/-! ### Run after run -/

/-- A source that has taken in the packets of one run and nothing else. -/
def gather (run : List Packet) : SectionSource :=
  run.foldl SectionSource.takePayload (.ofStream ⟨[], []⟩ 0)

theorem gather_concat (run : List Packet) (p : Packet) :
    gather (run ++ [p]) = (gather run).takePayload p := by
  rw [gather, List.foldl_concat, gather]

theorem gather_opened (run : List Packet) :
    ∃ found : List Located, (gather run).ready = found.flatMap (·.whole.bytes) ∧
      Opened (BeginsUnit run) (content run) found (gather run).inProgress := by
  induction run using List.reverseRecOn with
  | nil => exact ⟨[], rfl, .nil, by rintro p ⟨⟩⟩
  | append_singleton run p ih =>
    obtain ⟨found, hready, hopened⟩ := ih
    obtain ⟨more, part, htaken, hopened'⟩ :=
      SectionSource.takePayload_opened (p := p) (hopened.mono fun _ h => h.concat p)
        (beginsUnit_concat run)
    refine ⟨found ++ more, ?_, ?_⟩
    · rw [gather_concat, htaken, hready, List.flatMap_append]
    · rwa [gather_concat, htaken, content_concat]

/-- What a source has made ready is what each run brings by itself, and what it has in progress is
what the last run leaves. -/
structure Gathered (runs : List (List Packet)) (s : SectionSource) : Prop where
  ready : s.ready = runs.flatMap fun run => (gather run).ready
  inProgress : s.inProgress = runs.getLast?.bind fun run => (gather run).inProgress

namespace Gathered

variable {pid : Int} {packets : List Packet} {s : SectionSource}

theorem takes (earlier : List (List Packet)) (run : List Packet)
    (ready : s.ready = (earlier ++ [run]).flatMap fun run => (gather run).ready)
    (same : s.inProgress = (gather run).inProgress) (p : Packet) :
    Gathered (earlier ++ [run ++ [p]]) (s.takePayload p) := by
  obtain ⟨out, part, hs, hrun⟩ := SectionSource.takePayload_congr same p
  constructor
  · rw [hs, ready]
    simp [gather_concat, hrun]
  · rw [hs, List.getLast?_concat, Option.bind_some, gather_concat, hrun]

theorem goesOn {earlier : List (List Packet)} {run : List Packet}
    (h : Gathered (earlier ++ [run]) s) (p : Packet) :
    Gathered (earlier ++ [run ++ [p]]) (s.takePayload p) := by
  refine takes earlier run h.ready ?_ p
  rw [h.inProgress, List.getLast?_concat, Option.bind_some]

theorem begins (earlier : List (List Packet))
    (ready : s.ready = earlier.flatMap fun run => (gather run).ready)
    (lost : s.inProgress = none) (p : Packet) : Gathered (earlier ++ [[p]]) (s.takePayload p) := by
  refine takes earlier [] ?_ lost p
  rw [ready, List.flatMap_append]
  exact (List.append_nil _).symm

theorem feed (h : Gathered (counterRuns pid packets) s) (follows : Follows pid packets s)
    (p : Packet) : Gathered (counterRuns pid (packets ++ [p])) (s.feed p) := by
  rcases s.feed_cases p with refused | ⟨counts, expected⟩ | ⟨counts, last, hlast, other⟩
  · rw [SectionSource.feed_of_refused refused, follows.runs_of_refused refused]
    exact h
  · rw [SectionSource.feed_of_next counts expected]
    have hnext : Gathered (counterRuns pid packets) { s with lastCounter := some p.counter } :=
      ⟨h.ready, h.inProgress⟩
    rcases follows.runs_of_next counts expected with ⟨hnil, hruns⟩ | ⟨earlier, run, hruns, hruns'⟩
    · rw [hnil] at hnext
      rw [hruns]
      exact begins [] hnext.ready hnext.inProgress p
    · rw [hruns] at hnext
      rw [hruns']
      exact hnext.goesOn p
  · rw [SectionSource.feed_of_jump counts hlast other, (follows.runs_of_jump counts hlast other).2]
    exact begins (s := { s with
      lastCounter := some p.counter
      counterErrors := s.counterErrors + 1
      inProgress := none }) _ h.ready rfl p

theorem feedBytes (h : Gathered (counterRuns pid packets) s) (follows : Follows pid packets s)
    (block : Octets) :
    Gathered (counterRuns pid (packets ++ readable [block])) (s.feedBytes block) := by
  have hcounted : Gathered (counterRuns pid packets) { s with packets := s.packets + 1 } :=
    ⟨h.ready, h.inProgress⟩
  unfold SectionSource.feedBytes readable
  cases hp : Packet.ofBytes block with
  | error e => simpa [hp, Except.toOption] using hcounted
  | ok p => simpa [hp, Except.toOption] using hcounted.feed follows.counted p

theorem foldl (stream : Delivery) (pid : Int) (blocks : List Octets) :
    Gathered (counterRuns pid (readable blocks))
      (blocks.foldl SectionSource.feedBytes (.ofStream stream pid)) := by
  induction blocks using List.reverseRecOn with
  | nil => exact ⟨rfl, rfl⟩
  | append_singleton blocks block ih =>
    have follows : Follows pid (readable blocks)
        (blocks.foldl SectionSource.feedBytes (.ofStream stream pid)) := by
      simpa using (Follows.start stream pid).foldl blocks
    have hsplit : readable (blocks ++ [block]) = readable blocks ++ readable [block] :=
      List.filterMap_append
    rw [hsplit, List.foldl_concat]
    exact ih.feedBytes follows block

theorem exists_marked {runs : List (List Packet)} (h : Gathered runs s) :
    ∃ found : List (List Located), s.ready = found.flatten.flatMap (·.whole.bytes) ∧
      List.Forall₂ (fun run located => Marked (BeginsUnit run) (content run) located) runs
        found := by
  rw [h.ready]
  clear h
  induction runs with
  | nil => exact ⟨[], rfl, .nil⟩
  | cons run rest ih =>
    obtain ⟨found, hfound, hall⟩ := ih
    obtain ⟨located, hlocated, hopened⟩ := gather_opened run
    refine ⟨located :: found, ?_, .cons hopened.marked hall⟩
    rw [List.flatMap_cons, hlocated, hfound, List.flatten_cons, List.flatMap_append]

end Gathered

/-- Each section that is read out of a stream lies in what one run of packets brings, after the one
read before it. It starts at the byte that the pointer of a packet of the run designates, or just
where the section before it stops, or behind a packet of which the pointer leads past the end. -/
theorem readOut_starts (pid : Int) (stream : Delivery) {sizes : Nat → Nat}
    (positive : ∀ i, 0 < sizes i) :
    let out := readOut sizes (SectionSource.ofStream stream pid)
    let runs := counterRuns pid (readable (blocks stream))
    ∃ found : List (List Located), out.1 = found.flatten.flatMap (·.whole.bytes) ∧
      List.Forall₂ (fun run located => Marked (BeginsUnit run) (content run) located ∧
        ∀ l ∈ located, IsDesignated run l.place ∨ IsPastEnd run l.place ∨
          ∃ e ∈ located, e.stop = l.place) runs found := by
  intro out runs
  obtain ⟨found, hfound, hall⟩ := (Gathered.foldl stream pid (blocks stream)).exists_marked
  have hready := (SectionSource.readOut_eq_foldl positive (.ofStream stream pid)).1
  refine ⟨found, hready.trans hfound, hall.imp ?_⟩
  intro run located hmarked
  refine ⟨hmarked, fun l hl => ?_⟩
  rcases hmarked.start l hl with (pointed | past) | adjoins
  · exact Or.inl pointed.isDesignated
  · exact Or.inr (Or.inl past)
  · exact Or.inr (Or.inr adjoins)

/-- A section of 183 bytes: with a pointer ahead of it, it fills a packet. -/
def fillingSection : WholeSection :=
  ⟨0x4F :: 0xF0 :: 180 :: List.replicate 180 1, by decide +kernel, by decide⟩

/-- The blocks of a packet that a section fills to its end, and of one in which another section
starts although no unit does. -/
def adjoiningBlocks : List Octets :=
  [fullBlock true 0 (0 :: fillingSection.bytes), fullBlock false 1 shortSection.bytes]

def adjoiningRun : List Packet :=
  [fullPacket true 0 (0 :: fillingSection.bytes), fullPacket false 1 shortSection.bytes]

def adjoiningStream : Delivery := ⟨adjoiningBlocks.flatten, [100, 300]⟩

theorem blocks_adjoiningStream : blocks adjoiningStream = adjoiningBlocks := by
  have whole : ∀ block ∈ adjoiningBlocks, IsBlock block := by
    unfold IsBlock
    decide +kernel
  exact blocks_flatten whole (by decide) rfl

theorem counterRuns_adjoiningStream :
    counterRuns 0x12 (readable (blocks adjoiningStream)) = [adjoiningRun] := by
  rw [blocks_adjoiningStream]
  decide +kernel

/-- Only in the first packet does a unit start. -/
theorem lt_of_isDesignated_adjoiningRun {place : Nat} (h : IsDesignated adjoiningRun place) :
    place < 183 := by
  obtain ⟨p, first, ⟨before, after, hrun, unit, rfl⟩, -, hlt⟩ := h
  rcases before with - | ⟨q, before⟩
  · cases hrun
    have hlength : (content ([] : List Packet)).length +
        (fullPacket true 0 (0 :: fillingSection.bytes)).content.length = 183 := by decide +kernel
    omega
  · rw [adjoiningRun, List.cons_append, List.cons.injEq] at hrun
    rcases before with - | ⟨q', before⟩
    · cases hrun.2
      exact absurd unit Bool.false_ne_true
    · simp at hrun

theorem readOut_starts_adjoiningStream :
    ∃ located : List Located,
      (readOut (fun _ => 64) (SectionSource.ofStream adjoiningStream 0x12)).1 =
        located.flatMap (·.whole.bytes) ∧
      Marked (BeginsUnit adjoiningRun) (content adjoiningRun) located := by
  have positive : ∀ i : Nat, 0 < (fun _ => 64) i := fun _ => Nat.succ_pos 63
  obtain ⟨found, hfound, hall⟩ := readOut_starts 0x12 adjoiningStream positive
  rw [counterRuns_adjoiningStream] at hall
  obtain ⟨located, rest, ⟨hmarked, -⟩, hrest, rfl⟩ := List.forall₂_cons_left_iff.mp hall
  cases hrest
  exact ⟨located, by simpa using hfound, hmarked⟩

/-- Both sections are read out, and the second one is nowhere in what the first packet brings. -/
theorem readOut_adjoiningStream :
    let out := readOut (fun _ => 64) (SectionSource.ofStream adjoiningStream 0x12)
    let runs := counterRuns 0x12 (readable (blocks adjoiningStream))
    out.1 = fillingSection.bytes ++ shortSection.bytes ∧
      ¬∃ found : List (List Located), out.1 = found.flatten.flatMap (·.whole.bytes) ∧
        List.Forall₂ (fun run located => ∀ l ∈ located,
          l.whole.bytes <+: (content run).drop l.place ∧ IsDesignated run l.place) runs found := by
  intro out runs
  have positive : ∀ i : Nat, 0 < (fun _ => 64) i := fun _ => Nat.succ_pos 63
  have hout : out.1 = fillingSection.bytes ++ shortSection.bytes := by
    have hready := (SectionSource.readOut_eq_foldl positive (.ofStream adjoiningStream 0x12)).1
    rw [show (SectionSource.ofStream adjoiningStream 0x12).stream = adjoiningStream from rfl,
      blocks_adjoiningStream] at hready
    refine hready.trans ?_
    decide +kernel
  refine ⟨hout, ?_⟩
  rintro ⟨found, hfound, hall⟩
  have hruns : runs = [adjoiningRun] := counterRuns_adjoiningStream
  rw [hruns] at hall
  obtain ⟨located, rest, hlocated, hrest, rfl⟩ := List.forall₂_cons_left_iff.mp hall
  cases hrest
  -- there is one way only to split what is read out into sections
  have hsections : located.map (·.whole) = [fillingSection, shortSection] := by
    apply WholeSection.eq_of_flatMap_eq
    rw [hout] at hfound
    simpa [List.flatMap_map] using hfound.symm
  obtain ⟨l, hl, hwhole⟩ : ∃ l ∈ located, l.whole = shortSection := by
    rw [← List.mem_map, hsections]
    exact List.mem_cons_of_mem _ List.mem_cons_self
  have habsent : ∀ place < 183,
      ¬shortSection.bytes <+: (content adjoiningRun).drop place := by decide +kernel
  obtain ⟨lies, designated⟩ := hlocated l hl
  rw [hwhole] at lies
  exact habsent l.place (lt_of_isDesignated_adjoiningRun designated) lies

end BroadcastGuide.Transport
