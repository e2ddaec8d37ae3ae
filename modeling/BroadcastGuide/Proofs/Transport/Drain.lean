import BroadcastGuide.Proofs.Delivering
import BroadcastGuide.Transport.SectionSource

/-! All that a section source holds. Whatever sizes it is read in, what comes out is what draining
its stream at once collects. -/

namespace BroadcastGuide.Transport

namespace SectionSource

theorem collect_of_none {s : SectionSource} (h : s.inProgress = none) (bytes : Octets) :
    s.collect bytes = s := by
  simp only [collect, h]

theorem collect_of_some {s : SectionSource} {collected : Octets}
    (h : s.inProgress = some collected) (bytes : Octets) :
    s.collect bytes = { s with
      ready := s.ready ++ (splitSections (collected ++ bytes)).1
      inProgress := (splitSections (collected ++ bytes)).2 } := by
  simp only [collect, h]

/-- Another stream, bytes ahead of those that are ready, and more packets counted. -/
def frame (stream : Delivery) (ahead : Octets) (more : Nat) (s : SectionSource) : SectionSource :=
  { s with stream := stream, ready := ahead ++ s.ready, packets := s.packets + more }

section Frame

variable (stream : Delivery) (ahead : Octets) (more : Nat)

theorem collect_frame (s : SectionSource) (bytes : Octets) :
    (s.frame stream ahead more).collect bytes = (s.collect bytes).frame stream ahead more := by
  cases h : s.inProgress with
  | none => rw [collect_of_none h, collect_of_none (s := s.frame stream ahead more) h]
  | some collected =>
    rw [collect_of_some h, collect_of_some (s := s.frame stream ahead more) h]
    simp only [frame, List.append_assoc]

theorem takePayload_frame (s : SectionSource) (p : Packet) :
    (s.frame stream ahead more).takePayload p = (s.takePayload p).frame stream ahead more := by
  by_cases h : p.startsUnit = true
  · simp only [takePayload, if_pos h, collect_frame]
    exact collect_frame stream ahead more { s.collect _ with inProgress := some [] } _
  · simp only [takePayload, if_neg h]
    exact collect_frame stream ahead more s p.payload

/-- What a packet does depends neither on the stream, nor on what is ready, nor on how many packets
there were. -/
theorem feed_frame (s : SectionSource) (p : Packet) :
    (s.frame stream ahead more).feed p = (s.feed p).frame stream ahead more := by
  have hwanted : (s.frame stream ahead more).isWanted p = s.isWanted p := rfl
  have hlast : (s.frame stream ahead more).lastCounter = s.lastCounter := rfl
  unfold feed
  rw [hwanted, hlast]
  split
  · split
    · rw [← takePayload_frame]
      rfl
    · split
      · rfl
      · split
        · rw [← takePayload_frame]
          rfl
        · rw [← takePayload_frame]
          rfl
  · rfl

theorem feedBytes_frame (s : SectionSource) (bytes : Octets) :
    (s.frame stream ahead more).feedBytes bytes = (s.feedBytes bytes).frame stream ahead more := by
  have hcount : { s.frame stream ahead more with
      packets := (s.frame stream ahead more).packets + 1 } =
        frame stream ahead more { s with packets := s.packets + 1 } := by
    simp only [frame, Nat.add_right_comm]
  unfold feedBytes
  dsimp only
  rw [hcount]
  split
  · exact feed_frame stream ahead more _ _
  · rfl

theorem foldl_frame (s : SectionSource) (blocks : List Octets) :
    blocks.foldl feedBytes (s.frame stream ahead more) =
      (blocks.foldl feedBytes s).frame stream ahead more := by
  induction blocks generalizing s with
  | nil => rfl
  | cons block rest ih => rw [List.foldl_cons, feedBytes_frame, ih, List.foldl_cons]

end Frame

/-- Takes in all packets that are left of the stream. -/
def drain (s : SectionSource) : SectionSource :=
  let next := nextPacket s.stream
  let moved := { s with stream := next.stream, syncLosses := s.syncLosses + next.losses }
  match _h : next.packet? with
  | none => moved
  | some bytes => drain (moved.feedBytes bytes)
termination_by s.stream.data.length
decreasing_by
  have := (nextPacket_packet _h).2
  simp only [stream_feedBytes, packetSize] at this ⊢
  omega

theorem drain_of_none {s : SectionSource} (h : (nextPacket s.stream).packet? = none) :
    s.drain = { s with
      stream := (nextPacket s.stream).stream
      syncLosses := s.syncLosses + (nextPacket s.stream).losses } := by
  rw [drain]
  split
  · rfl
  · rename_i hs
    rw [h] at hs
    cases hs

theorem drain_of_some {s : SectionSource} {bytes : Octets}
    (h : (nextPacket s.stream).packet? = some bytes) :
    s.drain = drain (feedBytes { s with
      stream := (nextPacket s.stream).stream
      syncLosses := s.syncLosses + (nextPacket s.stream).losses } bytes) := by
  rw [drain]
  split
  · rename_i hs
    rw [h] at hs
    cases hs
  · rename_i hs
    rw [h] at hs
    cases hs
    rfl

theorem drain_frame (s : SectionSource) (ahead : Octets) :
    (s.frame s.stream ahead 0).drain = s.drain.frame s.drain.stream ahead 0 := by
  fun_induction drain s with
  | case1 s next moved h =>
    rw [drain_of_none (s := s.frame s.stream ahead 0) h]
    rfl
  | case2 s next moved bytes h ih =>
    rw [drain_of_some (s := s.frame s.stream ahead 0) h, ← ih, stream_feedBytes]
    exact congrArg drain (feedBytes_frame moved.stream ahead 0 moved bytes)

/-- Filling either finds a section, and there is as much to drain as before, or drains it all. -/
theorem fill_cases (s : SectionSource) :
    (s.fill.ready = [] ∧ s.drain = s.fill) ∨ (s.fill.ready ≠ [] ∧ s.fill.drain = s.drain) := by
  fun_induction fill s with
  | case1 s hready next moved h =>
    exact Or.inl ⟨List.isEmpty_iff.mp hready, drain_of_none h⟩
  | case2 s hready next moved bytes h ih => rwa [drain_of_some h]
  | case3 s hready => exact Or.inr ⟨fun he => hready (List.isEmpty_iff.mpr he), rfl⟩

theorem read_eq (s : SectionSource) (n : Nat) :
    ByteSource.read s n =
      (s.fill.ready.take n, { s.fill with ready := s.fill.ready.drop n }) := by
  simp [ByteSource.read, read]

/-- Read out in any positive sizes, a section source gives what draining it collects. -/
theorem readOut_eq_drain {sizes : Nat → Nat} (hs : ∀ i, 0 < sizes i) (s : SectionSource) :
    readOut sizes s = (s.drain.ready, { s.drain with ready := [] }) := by
  fun_induction readOut sizes s with
  | case1 sizes s answer hempty =>
    have hread : answer = (s.fill.ready.take (sizes 0), { s.fill with
        ready := s.fill.ready.drop (sizes 0) }) := read_eq s (sizes 0)
    have hready : s.fill.ready = [] := by
      have hpos := hs 0
      rw [hread, List.isEmpty_iff, List.take_eq_nil_iff] at hempty
      rcases hempty with h | h
      · omega
      · exact h
    rcases fill_cases s with ⟨-, hdrain⟩ | ⟨hne, -⟩
    · rw [hread, hdrain, hready, List.drop_nil]
    · exact absurd hready hne
  | case2 sizes s answer hne tail ih =>
    have hread : answer = (s.fill.ready.take (sizes 0), { s.fill with
        ready := s.fill.ready.drop (sizes 0) }) := read_eq s (sizes 0)
    have hready : s.fill.ready ≠ [] := by
      intro h
      rw [hread, h, List.take_nil] at hne
      exact hne rfl
    rcases fill_cases s with ⟨h, -⟩ | ⟨-, hdrain⟩
    · exact absurd h hready
    · -- what was read stands ahead of what is left, and nothing else changes
      have hframe : s.fill = frame answer.2.stream answer.1 0 answer.2 := by
        rw [hread]
        simp only [frame, List.take_append_drop, Nat.add_zero]
      have hall := drain_frame answer.2 answer.1
      rw [← hframe, hdrain] at hall
      have htail : tail = _ := ih fun i => hs (i + 1)
      rw [htail, hall]
      rfl

end SectionSource

/-! ### Streams of whole packets -/

theorem readExact_eq {stream : Delivery} (h : ∀ c ∈ stream.chunks, 0 < c) (n : Nat) :
    (readExact stream n).1 = stream.data.take n ∧
      (readExact stream n).2.data = stream.data.drop n ∧
      ∀ c ∈ (readExact stream n).2.chunks, 0 < c := by
  fun_induction readExact stream n with
  | case1 => exact ⟨rfl, rfl, h⟩
  | case2 stream n hn answer hempty =>
    have hdata : stream.data = [] := Decidable.byContradiction fun hne =>
      Delivery.read_ne_nil h (Nat.pos_iff_ne_zero.mpr hn) hne (List.isEmpty_iff.mp hempty)
    have hanswer : answer.2.data = [] := by
      rw [show answer.2.data = _ from Delivery.data_read stream n, hdata, List.drop_nil]
    refine ⟨?_, ?_, Delivery.chunks_read_pos h n⟩
    · rw [hdata, List.take_nil]
    · rw [hanswer, hdata, List.drop_nil]
  | case3 stream n hn answer hne rest ih =>
    obtain ⟨htake, hdrop, hpos⟩ := ih (Delivery.chunks_read_pos h n)
    have hsplit : answer.1 ++ answer.2.data = stream.data := Delivery.read_append stream n
    have hle : answer.1.length ≤ n := Delivery.length_read_le stream n
    refine ⟨?_, ?_, hpos⟩
    · rw [htake, ← hsplit, List.take_append, List.take_of_length_le hle]
    · rw [hdrop, ← hsplit, List.drop_append, List.drop_of_length_le hle, List.nil_append]

def IsBlock (block : Octets) : Prop := block.length = packetSize ∧ block.head? = some syncByte

theorem nextPacket_block {stream : Delivery} (h : ∀ c ∈ stream.chunks, 0 < c) {block more : Octets}
    (hb : IsBlock block) (hd : stream.data = block ++ more) :
    ∃ after : Delivery, nextPacket stream = ⟨some block, after, 0⟩ ∧ after.data = more ∧
      ∀ c ∈ after.chunks, 0 < c := by
  obtain ⟨htake, hdrop, hpos⟩ := readExact_eq h packetSize
  rw [hd, ← hb.1] at htake hdrop
  rw [List.take_left] at htake
  rw [List.drop_left] at hdrop
  rw [hb.1] at htake hdrop
  refine ⟨(readExact stream packetSize).2, ?_, hdrop, hpos⟩
  rw [nextPacket, htake, align, if_neg (fun hne => hne hb.1), if_pos hb.2]

theorem nextPacket_end {stream : Delivery} (h : ∀ c ∈ stream.chunks, 0 < c)
    (hd : stream.data = []) :
    ∃ after : Delivery, nextPacket stream = ⟨none, after, 0⟩ := by
  obtain ⟨htake, -, -⟩ := readExact_eq h packetSize
  rw [hd, List.take_nil] at htake
  refine ⟨(readExact stream packetSize).2, ?_⟩
  rw [nextPacket, htake, align, if_pos (by decide)]

namespace SectionSource

/-- Draining a stream of whole packets takes them in one by one. -/
theorem drain_blocks {blocks : List Octets} (hb : ∀ block ∈ blocks, IsBlock block)
    (s : SectionSource) (h : ∀ c ∈ s.stream.chunks, 0 < c) (hd : s.stream.data = blocks.flatten) :
    ∃ after, s.drain = { blocks.foldl feedBytes s with stream := after } := by
  induction blocks generalizing s with
  | nil =>
    obtain ⟨after, hnext⟩ := nextPacket_end h hd
    refine ⟨after, ?_⟩
    rw [drain_of_none (by rw [hnext]), hnext]
    rfl
  | cons block rest ih =>
    have hblock := hb block List.mem_cons_self
    obtain ⟨after, hnext, hafter, hpos⟩ := nextPacket_block h hblock hd
    have hmoved : drain s = ((s.frame after [] 0).feedBytes block).drain := by
      rw [drain_of_some (by rw [hnext]), hnext]
      rfl
    have hstream : ((s.frame after [] 0).feedBytes block).stream = after := stream_feedBytes _ block
    obtain ⟨last, hlast⟩ := ih (fun b hb' => hb b (List.mem_cons_of_mem block hb'))
      ((s.frame after [] 0).feedBytes block) (by rw [hstream]; exact hpos) (by rw [hstream, hafter])
    refine ⟨last, ?_⟩
    rw [hmoved, hlast, feedBytes_frame, foldl_frame]
    rfl

/-- Taking in blocks that all hold packets takes the packets in. -/
theorem foldl_feedBytes {blocks : List Octets} {received : List Packet}
    (h : blocks.map Packet.ofBytes = received.map .ok) (s : SectionSource) :
    blocks.foldl feedBytes s = (received.foldl feed s).frame s.stream [] received.length := by
  induction blocks generalizing received s with
  | nil =>
    cases List.map_eq_nil_iff.mp h.symm
    rfl
  | cons block rest ih =>
    cases received with
    | nil => cases h
    | cons p later =>
      rw [List.map_cons, List.map_cons, List.cons.injEq] at h
      have hfeed : s.feedBytes block = frame s.stream [] 1 (s.feed p) := by
        rw [← feed_frame]
        simp only [feedBytes, h.1]
        rfl
      rw [List.foldl_cons, hfeed, foldl_frame, ih h.2, stream_feed, List.foldl_cons,
        List.length_cons]
      rfl

end SectionSource

theorem isBlock_of_ofBytes {block : Octets} {p : Packet} (hl : block.length = packetSize)
    (h : Packet.ofBytes block = .ok p) : IsBlock block := by
  refine ⟨hl, ?_⟩
  unfold Packet.ofBytes at h
  split at h
  · cases h
  · split at h
    · split at h
      · cases h
      · rename_i hsync
        rw [List.head?_cons, Decidable.not_not.mp hsync]
    · cases h

end BroadcastGuide.Transport
