import BroadcastGuide.Proofs.Transport.Drain

/-! The packets that a stream holds. Draining a source takes them in one by one, whatever stands
between them in the stream. -/

namespace BroadcastGuide.Transport

def blocks (stream : Delivery) : List Octets :=
  if h : (nextPacket stream).packet?.isSome then
    (nextPacket stream).packet?.get h :: blocks (nextPacket stream).stream
  else []
termination_by stream.data.length
decreasing_by
  have := (nextPacket_packet (Option.some_get h).symm).2
  simp only [packetSize] at this ⊢
  omega

theorem blocks_of_none {stream : Delivery} (h : (nextPacket stream).packet? = none) :
    blocks stream = [] := by
  rw [blocks, dif_neg (by simp [h])]

theorem blocks_of_some {stream : Delivery} {block : Octets}
    (h : (nextPacket stream).packet? = some block) :
    blocks stream = block :: blocks (nextPacket stream).stream := by
  rw [blocks, dif_pos (by simp [h])]
  simp only [h, Option.get_some]

theorem blocks_flatten {packets : List Octets} (whole : ∀ block ∈ packets, IsBlock block)
    {stream : Delivery} (h : ∀ c ∈ stream.chunks, 0 < c) (hd : stream.data = packets.flatten) :
    blocks stream = packets := by
  induction packets generalizing stream with
  | nil =>
    obtain ⟨after, hnext⟩ := nextPacket_end h hd
    exact blocks_of_none (by rw [hnext])
  | cons block rest ih =>
    obtain ⟨after, hnext, hafter, hpos⟩ := nextPacket_block h (whole block List.mem_cons_self) hd
    rw [blocks_of_some (by rw [hnext]), hnext,
      ih (fun b hb => whole b (List.mem_cons_of_mem block hb)) hpos hafter]

def readable (blocks : List Octets) : List Packet :=
  blocks.filterMap fun block => (Packet.ofBytes block).toOption

/-- A packet that counts: it belongs to the stream, has payload and no error, and does not repeat
the counter of the one that counted last. -/
def Packet.isAccepted (pid : Int) (last : Option Nat) (p : Packet) : Bool :=
  pid == p.pid && !p.hasError && p.hasPayload && last != some p.counter

namespace SectionSource

/-! ### What a packet can do -/

theorem feed_of_refused {s : SectionSource} {p : Packet}
    (h : p.isAccepted s.pid s.lastCounter = false) : s.feed p = s := by
  unfold feed isWanted
  split
  · rename_i wanted
    rw [Packet.isAccepted, wanted, Bool.true_and, bne_eq_false_iff_eq] at h
    simp only [h, if_true]
  · rfl

theorem feed_of_next {s : SectionSource} {p : Packet}
    (h : p.isAccepted s.pid s.lastCounter = true)
    (next : ∀ last ∈ s.lastCounter, p.counter = (last + 1) % 16) :
    s.feed p = { s with lastCounter := some p.counter }.takePayload p := by
  rw [Packet.isAccepted, Bool.and_eq_true, bne_iff_ne] at h
  rw [feed, if_pos (show s.isWanted p = true from h.1)]
  cases hlast : s.lastCounter with
  | none => rfl
  | some last =>
    have hne : p.counter ≠ last := fun he => h.2 (by rw [hlast, he])
    dsimp only
    rw [if_neg hne, if_pos (next last hlast)]

theorem feed_of_jump {s : SectionSource} {p : Packet} {last : Nat}
    (h : p.isAccepted s.pid s.lastCounter = true) (hlast : s.lastCounter = some last)
    (jump : p.counter ≠ (last + 1) % 16) :
    s.feed p = { s with
      lastCounter := some p.counter
      counterErrors := s.counterErrors + 1
      inProgress := none }.takePayload p := by
  rw [Packet.isAccepted, Bool.and_eq_true, bne_iff_ne] at h
  have hne : p.counter ≠ last := fun he => h.2 (by rw [hlast, he])
  rw [feed, if_pos (show s.isWanted p = true from h.1), hlast]
  dsimp only
  rw [if_neg hne, if_neg jump]

/-- A packet is passed over, or follows the one before it, or comes after a loss. -/
theorem feed_cases (s : SectionSource) (p : Packet) :
    p.isAccepted s.pid s.lastCounter = false ∨
      (p.isAccepted s.pid s.lastCounter = true ∧
        ∀ last ∈ s.lastCounter, p.counter = (last + 1) % 16) ∨
      p.isAccepted s.pid s.lastCounter = true ∧
        ∃ last, s.lastCounter = some last ∧ p.counter ≠ (last + 1) % 16 := by
  cases haccepted : p.isAccepted s.pid s.lastCounter with
  | false => exact Or.inl rfl
  | true =>
    cases hlast : s.lastCounter with
    | none => exact Or.inr (Or.inl ⟨rfl, fun last h => absurd h (Option.not_mem_none last)⟩)
    | some last =>
      by_cases next : p.counter = (last + 1) % 16
      · refine Or.inr (Or.inl ⟨rfl, fun last' h => ?_⟩)
        rwa [← Option.some.inj h]
      · exact Or.inr (Or.inr ⟨rfl, last, rfl, next⟩)

/-! ### Draining -/

/-- Elsewhere in a stream, and with other losses of alignment behind it. -/
def moveTo (stream : Delivery) (losses : Nat) (s : SectionSource) : SectionSource :=
  { s with stream := stream, syncLosses := losses }

section MoveTo

variable (stream : Delivery) (losses : Nat)

theorem collect_moveTo (s : SectionSource) (bytes : Octets) :
    (s.moveTo stream losses).collect bytes = (s.collect bytes).moveTo stream losses := by
  cases h : s.inProgress with
  | none => rw [collect_of_none h, collect_of_none (s := s.moveTo stream losses) h]
  | some collected =>
    rw [collect_of_some h, collect_of_some (s := s.moveTo stream losses) h]
    rfl

theorem takePayload_moveTo (s : SectionSource) (p : Packet) :
    (s.moveTo stream losses).takePayload p = (s.takePayload p).moveTo stream losses := by
  by_cases h : p.startsUnit = true
  · simp only [takePayload, if_pos h, collect_moveTo]
    exact collect_moveTo stream losses { s.collect _ with inProgress := some [] } _
  · simp only [takePayload, if_neg h]
    exact collect_moveTo stream losses s p.payload

theorem feed_moveTo (s : SectionSource) (p : Packet) :
    (s.moveTo stream losses).feed p = (s.feed p).moveTo stream losses := by
  rcases feed_cases s p with refused | ⟨accepted, next⟩ | ⟨accepted, last, hlast, jump⟩
  · rw [feed_of_refused refused, feed_of_refused (s := s.moveTo stream losses) refused]
  · rw [feed_of_next accepted next, feed_of_next (s := s.moveTo stream losses) accepted next,
      ← takePayload_moveTo]
    rfl
  · rw [feed_of_jump accepted hlast jump,
      feed_of_jump (s := s.moveTo stream losses) accepted hlast jump, ← takePayload_moveTo]
    rfl

theorem feedBytes_moveTo (s : SectionSource) (bytes : Octets) :
    (s.moveTo stream losses).feedBytes bytes = (s.feedBytes bytes).moveTo stream losses := by
  unfold feedBytes
  dsimp only
  split
  · exact feed_moveTo stream losses { s with packets := s.packets + 1 } _
  · rfl

theorem foldl_moveTo (s : SectionSource) (blocks : List Octets) :
    blocks.foldl feedBytes (s.moveTo stream losses) =
      (blocks.foldl feedBytes s).moveTo stream losses := by
  induction blocks generalizing s with
  | nil => rfl
  | cons block rest ih => rw [List.foldl_cons, feedBytes_moveTo, ih, List.foldl_cons]

end MoveTo

theorem drain_eq_foldl (s : SectionSource) :
    ∃ stream losses, s.drain = ((blocks s.stream).foldl feedBytes s).moveTo stream losses := by
  fun_induction drain s with
  | case1 s next moved h =>
    refine ⟨next.stream, s.syncLosses + next.losses, ?_⟩
    rw [blocks_of_none h]
    rfl
  | case2 s next moved bytes h ih =>
    obtain ⟨stream, losses, ih⟩ := ih
    refine ⟨stream, losses, ?_⟩
    have hstream : (moved.feedBytes bytes).stream = next.stream := by rw [stream_feedBytes]
    have hmoved : moved = s.moveTo next.stream (s.syncLosses + next.losses) := rfl
    rw [ih, hstream, blocks_of_some h, List.foldl_cons, hmoved, feedBytes_moveTo, foldl_moveTo]
    rfl

/-- What is read out of a source is what taking in the packets of its stream makes ready. -/
theorem readOut_eq_foldl {sizes : Nat → Nat} (positive : ∀ i, 0 < sizes i) (s : SectionSource) :
    (readOut sizes s).1 = ((blocks s.stream).foldl feedBytes s).ready ∧
      (readOut sizes s).2.counterErrors = ((blocks s.stream).foldl feedBytes s).counterErrors := by
  obtain ⟨stream, losses, hdrain⟩ := drain_eq_foldl s
  rw [readOut_eq_drain positive, hdrain]
  exact ⟨rfl, rfl⟩

end SectionSource

end BroadcastGuide.Transport
