import BroadcastGuide.Proofs.Counting
import BroadcastGuide.Proofs.Grabber.RoundTrip

/-! Sections that a run passes over. Without them it shows the same programmes and knows the same
versions. -/

namespace BroadcastGuide

open Calendar (Instant)

/-- A section that is not decoded: its table is not wanted or carries no events, or its checksum is
wrong. -/
def RawSection.IsPassedOver (settings : Settings) (s : RawSection) : Prop :=
  settings.acceptsTable s.tableId.toNat = false ∨ s.isIntact = false ∨
    Table.isEventInformation s.tableId.toNat = false

/-- Sections in order, and what is left of them without some that are passed over. -/
inductive LeavesOut (settings : Settings) : List RawSection → List RawSection → Prop
  | nil : LeavesOut settings [] []
  | keep (s : RawSection) {sections kept : List RawSection}
      (tail : LeavesOut settings sections kept) : LeavesOut settings (s :: sections) (s :: kept)
  | drop {s : RawSection} {sections kept : List RawSection} (passed : s.IsPassedOver settings)
      (tail : LeavesOut settings sections kept) : LeavesOut settings (s :: sections) kept

namespace LeavesOut

variable {settings : Settings} {sections kept : List RawSection}

theorem sublist (h : LeavesOut settings sections kept) : kept.Sublist sections := by
  induction h with
  | nil => exact .slnil
  | keep s _ ih => exact ih.cons_cons s
  | drop _ _ ih => exact ih.cons _

end LeavesOut

def Counters.OfSections (d : Counters) : Prop :=
  d = { zero with packets := d.packets, crcErrors := d.crcErrors, filtered := d.filtered }

namespace Counters.OfSections

variable {c d e : Counters}

theorem zero : Counters.zero.OfSections := rfl

theorem plus (hd : d.OfSections) (he : e.OfSections) : (d.plus e).OfSections := by
  rw [OfSections] at *
  rw [hd, he]
  simp [Counters.plus, Counters.zero]

theorem eq_of_plus (h : d.OfSections) :
    c.plus d = { c with
      packets := (c.plus d).packets
      crcErrors := (c.plus d).crcErrors
      filtered := (c.plus d).filtered } := by
  rw [OfSections] at h
  rw [h]
  simp [Counters.plus, Counters.zero]

end Counters.OfSections

namespace Grabber

variable {settings : Settings} {now : Instant}

/-- The same programmes and the same end, with more on the counters. -/
structure Alike (d : Counters) (touches : Nat) (h h' : Handled) : Prop where
  state : h'.state = h.state.plus d touches
  fault : h'.fault = h.fault
  programmes : programmesOf h'.events = programmesOf h.events

theorem handle_plus (settings : Settings) (now : Instant) (state : GrabState) (d : Counters)
    (touches : Nat) (s : RawSection) :
    Alike d touches (handle settings now state s)
      (handle settings now (state.plus d touches) s) := by
  have hseen : seen (state.plus d touches) = (seen state).plus d touches :=
    state.count_plus d touches fun c => by simp [Counters.plus, Int.add_right_comm]
  cases accepted : settings.acceptsTable s.tableId.toNat with
  | false =>
    rw [handle_of_rejected accepted, handle_of_rejected accepted, hseen,
      (seen state).count_plus d touches fun c => by simp [Counters.plus, Int.add_right_comm]]
    exact ⟨rfl, rfl, rfl⟩
  | true =>
    cases intact : s.isIntact with
    | false =>
      rw [handle_of_broken accepted intact, handle_of_broken accepted intact, hseen,
        (seen state).count_plus d touches fun c => by simp [Counters.plus, Int.add_right_comm]]
      exact ⟨rfl, rfl, rfl⟩
    | true =>
      rcases hd : decodeRaw settings now { seen state with touches := state.touches + 1 } s with
        ⟨next, result⟩
      have hd' : decodeRaw settings now { seen (state.plus d touches) with
          touches := (state.plus d touches).touches + 1 } s = (next.plus d touches, result) := by
        have hmoved : { seen (state.plus d touches) with
            touches := (state.plus d touches).touches + 1 } =
              ({ seen state with touches := state.touches + 1 } : GrabState).plus d touches := by
          rw [hseen]
          simp only [GrabState.plus, Nat.add_right_comm]
        rw [hmoved, decodeRaw_plus, hd]
      cases result with
      | error e =>
        rw [handle_of_stopped accepted intact hd, handle_of_stopped accepted intact hd']
        exact ⟨rfl, rfl, rfl⟩
      | ok ps =>
        rw [handle_of_intact accepted intact hd, handle_of_intact accepted intact hd']
        exact ⟨rfl, rfl, by rw [programmesOf_section, programmesOf_section]⟩

theorem handleSections_plus (settings : Settings) (now : Instant) (state : GrabState)
    (d : Counters) (touches : Nat) (sections : List RawSection) :
    Alike d touches (handleSections settings now state sections)
      (handleSections settings now (state.plus d touches) sections) := by
  induction sections generalizing state with
  | nil => exact ⟨rfl, rfl, rfl⟩
  | cons s rest ih =>
    obtain ⟨hstate, hfault, hprogrammes⟩ := handle_plus settings now state d touches s
    cases h : (handle settings now state s).fault with
    | some fault =>
      have h' := hfault.trans h
      simp only [handleSections, h, h']
      exact ⟨hstate, rfl, hprogrammes⟩
    | none =>
      rw [handleSections_cons h, handleSections_cons (hfault.trans h), hstate]
      obtain ⟨hstate', hfault', hprogrammes'⟩ := ih (handle settings now state s).state
      refine ⟨hstate', hfault', ?_⟩
      rw [programmesOf_append, programmesOf_append, hprogrammes, hprogrammes']

/-- A section that is passed over counts as a section, and does nothing else. -/
theorem handle_of_passedOver (now : Instant) {s : RawSection} (passed : s.IsPassedOver settings)
    (state : GrabState) : ∃ d touches, d.OfSections ∧
      Alike d touches ⟨state, [], none⟩ (handle settings now state s) := by
  have hfiltered (touches : Nat) :
      { (seen state).count (fun c => { c with filtered := c.filtered + 1 }) with
          touches := state.touches + touches } =
        state.plus { Counters.zero with packets := 1, filtered := 1 } touches := by
    simp [seen, GrabState.count, GrabState.plus, DecoderState.plus, DecoderState.count,
      Counters.plus, Counters.zero]
  have hbroken : (seen state).count (fun c => { c with crcErrors := c.crcErrors + 1 }) =
      state.plus { Counters.zero with packets := 1, crcErrors := 1 } 0 := by
    simp [seen, GrabState.count, GrabState.plus, DecoderState.plus, DecoderState.count,
      Counters.plus, Counters.zero]
  cases accepted : settings.acceptsTable s.tableId.toNat with
  | false =>
    rw [handle_of_rejected accepted]
    exact ⟨{ Counters.zero with packets := 1, filtered := 1 }, 0, rfl, hfiltered 0, rfl, rfl⟩
  | true =>
    cases intact : s.isIntact with
    | false =>
      rw [handle_of_broken accepted intact]
      exact ⟨{ Counters.zero with packets := 1, crcErrors := 1 }, 0, rfl, hbroken, rfl, rfl⟩
    | true =>
      have other : Table.isEventInformation s.tableId.toNat = false := by
        simpa [RawSection.IsPassedOver, accepted, intact] using passed
      have hd : decodeRaw settings now { seen state with touches := state.touches + 1 } s =
          ({ (seen state).count (fun c => { c with filtered := c.filtered + 1 }) with
            touches := state.touches + 1 }, .ok []) := by
        simp only [decodeRaw, other, Bool.not_false, if_true]
        rfl
      rw [handle_of_intact accepted intact hd]
      exact ⟨{ Counters.zero with packets := 1, filtered := 1 }, 1, rfl, hfiltered 1, rfl, rfl⟩

theorem handleSections_leavesOut (now : Instant) {sections kept : List RawSection}
    (h : LeavesOut settings sections kept) (state : GrabState) :
    ∃ d touches, d.OfSections ∧ Alike d touches (handleSections settings now state kept)
      (handleSections settings now state sections) := by
  induction h generalizing state with
  | nil => exact ⟨.zero, 0, .zero, state.plus_zero.symm, rfl, rfl⟩
  | keep s _ ih =>
    cases hfault : (handle settings now state s).fault with
    | some fault =>
      simp only [handleSections, hfault]
      exact ⟨.zero, 0, .zero, (GrabState.plus_zero _).symm, rfl, rfl⟩
    | none =>
      obtain ⟨d, touches, hd, hstate, hfault', hprogrammes⟩ :=
        ih (handle settings now state s).state
      rw [handleSections_cons hfault, handleSections_cons hfault]
      refine ⟨d, touches, hd, hstate, hfault', ?_⟩
      rw [programmesOf_append, programmesOf_append, hprogrammes]
  | drop passed _ ih =>
    -- all that comes after the section starts with more on the counters
    obtain ⟨d, touches, hd, hstate, hfault, hnothing⟩ :=
      handle_of_passedOver now passed state
    rename_i s sections kept _
    obtain ⟨e, more, he, hstate', hfault', hprogrammes'⟩ := ih state
    obtain ⟨hstate'', hfault'', hprogrammes''⟩ :=
      handleSections_plus settings now state d touches sections
    rw [handleSections_cons hfault, hstate]
    refine ⟨e.plus d, more + touches, he.plus hd, ?_, hfault''.trans hfault', ?_⟩
    · rw [hstate'', hstate', GrabState.plus_plus]
    · rw [programmesOf_append, hnothing, hprogrammes'', hprogrammes']
      rfl

end Grabber

/-- Sections that are passed over can as well be left out of a broadcast: a run over the others
gives the same programmes in the same order, ends in the same way and with the same versions, and
counts all but the sections themselves alike. -/
theorem run_leavesOut {σ τ : Type} [ByteSource σ] [ByteSource τ] {source : σ} {other : τ}
    (settings : Settings) (now : Int) {sections kept : List RawSection}
    (room : 3 ≤ settings.bufferCapacity) (start : ∀ s ∈ sections, isFiller s.tableId = false)
    (fits : ∀ s ∈ sections, s.bytes.length ≤ settings.bufferCapacity)
    (leaves : LeavesOut settings sections kept)
    (h : Delivers source (sections.flatMap (·.bytes)))
    (h' : Delivers other (kept.flatMap (·.bytes))) :
    let whole := Grabber.run settings now source
    let part := Grabber.run settings now other
    whole.programmes = part.programmes ∧ whole.fault = part.fault ∧
      whole.state.decoder.versions = part.state.decoder.versions ∧
      whole.state.decoder.counters = { part.state.decoder.counters with
        packets := whole.state.decoder.counters.packets
        crcErrors := whole.state.decoder.counters.crcErrors
        filtered := whole.state.decoder.counters.filtered } := by
  intro whole part
  have hsub := leaves.sublist.subset
  obtain ⟨hevents, hstate, hfault⟩ := Grabber.run_sections settings now room start fits h
  obtain ⟨hevents', hstate', hfault'⟩ := Grabber.run_sections settings now room
    (fun s hs => start s (hsub hs)) (fun s hs => fits s (hsub hs)) h'
  obtain ⟨d, touches, hd, hplus, hsame, hprogrammes⟩ :=
    Grabber.handleSections_leavesOut now leaves .initial
  have hwhole : whole.state = part.state.plus d touches := by
    rw [hstate, hstate', hplus]
  refine ⟨?_, ?_, ?_, ?_⟩
  · exact (congrArg Grabber.programmesOf hevents).trans
      (hprogrammes.trans (congrArg Grabber.programmesOf hevents').symm)
  · rw [hfault, hfault', hsame]
  · rw [hwhole]
    rfl
  · rw [hwhole]
    exact hd.eq_of_plus

def afternoonSection : RawSection := ⟨afternoonBytes, by decide +kernel, by decide⟩

/-- The section of the afternoon with a byte changed, and one of another table. -/
def noise : List RawSection :=
  [⟨afternoonBytes.set 30 0, by decide +kernel, by decide⟩,
    ⟨[0x42, 0xF0, 4, 1, 2, 3, 4], rfl, by decide⟩]

theorem run_leavesOut_noise :
    LeavesOut .standard (noise ++ afternoonSection :: noise) [afternoonSection] ∧
      let whole := Grabber.run .standard noon
        (Delivery.mk ((noise ++ afternoonSection :: noise).flatMap (·.bytes)) [100, 1])
      let part := Grabber.run .standard noon (Delivery.mk afternoonBytes [])
      whole.programmes = part.programmes ∧
        whole.state.decoder.versions = part.state.decoder.versions := by
  have broken : RawSection.IsPassedOver .standard
      ⟨afternoonBytes.set 30 0, by decide +kernel, by decide⟩ := Or.inr (Or.inl (by decide +kernel))
  have other : RawSection.IsPassedOver .standard ⟨[0x42, 0xF0, 4, 1, 2, 3, 4], rfl, by decide⟩ :=
    Or.inr (Or.inr rfl)
  have leaves : LeavesOut .standard (noise ++ afternoonSection :: noise) [afternoonSection] :=
    .drop broken (.drop other (.keep _ (.drop broken (.drop other .nil))))
  have hwhole := Delivery.delivers
    ⟨(noise ++ afternoonSection :: noise).flatMap (·.bytes), [100, 1]⟩ (by decide)
  have hpart := Delivery.delivers ⟨afternoonBytes, []⟩ (by decide)
  have hbytes : [afternoonSection].flatMap (·.bytes) = afternoonBytes := rfl
  obtain ⟨hprogrammes, -, hversions, -⟩ := run_leavesOut .standard noon (by decide)
    (by decide +kernel) (by decide +kernel) leaves hwhole (hbytes ▸ hpart)
  exact ⟨leaves, hprogrammes, hversions⟩

end BroadcastGuide
