import BroadcastGuide.Proofs.Transport.Blocks

/-! A scan of a whole byte string for packets. A section source finds what the scan finds, in
whatever pieces the bytes come and in whatever sizes it is read. -/

namespace BroadcastGuide.Transport

structure PacketScan where
  packets : List Octets
  losses : Nat
  deriving DecidableEq

/-- What is left of as many bytes as a packet has from the first sync byte after their head on. -/
def realigned (bytes : Octets) : Octets :=
  (bytes.take packetSize).tail.dropWhile (· ≠ syncByte) ++ bytes.drop packetSize

theorem length_realigned_lt {bytes : Octets} (h : packetSize ≤ bytes.length) :
    (realigned bytes).length < bytes.length := by
  have hkept : ((bytes.take packetSize).tail.dropWhile (· ≠ syncByte)).length ≤
      (bytes.take packetSize).tail.length := (List.dropWhile_sublist _).length_le
  rw [List.length_tail, List.length_take, packetSize] at hkept
  rw [packetSize] at h
  rw [realigned, List.length_append, List.length_drop, packetSize]
  omega

/-- Scans from the left. Where no sync byte stands, the next one is looked for. The scan ends where
a packet would be incomplete. -/
def scanPackets (bytes : Octets) : PacketScan :=
  if short : bytes.length < packetSize then ⟨[], 0⟩
  else if bytes.head? = some syncByte then
    let rest := scanPackets (bytes.drop packetSize)
    ⟨bytes.take packetSize :: rest.packets, rest.losses⟩
  else
    let rest := scanPackets (realigned bytes)
    ⟨rest.packets, rest.losses + 1⟩
termination_by bytes.length
decreasing_by
  · rw [List.length_drop]
    simp only [packetSize] at short ⊢
    omega
  · exact length_realigned_lt (Nat.le_of_not_lt short)

theorem scanPackets_short {bytes : Octets} (h : bytes.length < packetSize) :
    scanPackets bytes = ⟨[], 0⟩ := by
  rw [scanPackets, dif_pos h]

theorem scanPackets_block {block : Octets} (h : IsBlock block) (rest : Octets) :
    scanPackets (block ++ rest) =
      ⟨block :: (scanPackets rest).packets, (scanPackets rest).losses⟩ := by
  obtain ⟨hlength, hhead⟩ := h
  have hfull : ¬ (block ++ rest).length < packetSize := by
    rw [List.length_append, hlength]
    omega
  have hsync : (block ++ rest).head? = some syncByte := by
    rw [List.head?_append, hhead]
    rfl
  rw [scanPackets, dif_neg hfull, if_pos hsync, ← hlength, List.take_left, List.drop_left]

theorem scanPackets_unaligned {window : Octets} (full : window.length = packetSize)
    (h : window.head? ≠ some syncByte) (rest : Octets) :
    scanPackets (window ++ rest) =
      let found := scanPackets (window.tail.dropWhile (· ≠ syncByte) ++ rest)
      ⟨found.packets, found.losses + 1⟩ := by
  have hfull : ¬ (window ++ rest).length < packetSize := by
    rw [List.length_append, full]
    omega
  have hhead : (window ++ rest).head? ≠ some syncByte := by
    cases window with
    | nil => cases full
    | cons b tail => exact h
  rw [scanPackets, dif_neg hfull, if_neg hhead, realigned, ← full, List.take_left, List.drop_left]

def Aligned.onward (a : Aligned) : PacketScan :=
  match a.packet? with
  | none => ⟨[], a.losses⟩
  | some block =>
    let rest := scanPackets a.stream.data
    ⟨block :: rest.packets, a.losses + rest.losses⟩

theorem Aligned.onward_of_none {a : Aligned} (h : a.packet? = none) :
    a.onward = ⟨[], a.losses⟩ := by
  rw [onward, h]

theorem Aligned.onward_of_some {a : Aligned} {block : Octets} (h : a.packet? = some block) :
    a.onward = ⟨block :: (scanPackets a.stream.data).packets,
      a.losses + (scanPackets a.stream.data).losses⟩ := by
  rw [onward, h]

/-- A window that a stream has filled up as far as it could. -/
theorem ahead_readExact {stream : Delivery} (hc : ∀ c ∈ stream.chunks, 0 < c) {kept : Octets}
    (h : kept.length ≤ packetSize) :
    let more := readExact stream (packetSize - kept.length)
    (kept ++ more.1).length = packetSize ∨
      (kept ++ more.1).length < packetSize ∧ more.2.data = [] := by
  obtain ⟨htake, hdrop, -⟩ := readExact_eq hc (packetSize - kept.length)
  dsimp only
  rw [htake, hdrop, List.length_append, List.length_take, List.drop_eq_nil_iff]
  omega

theorem ahead_nextPacket {stream : Delivery} (hc : ∀ c ∈ stream.chunks, 0 < c) :
    let first := readExact stream packetSize
    first.1.length = packetSize ∨ first.1.length < packetSize ∧ first.2.data = [] := by
  have hnone : ([] : Octets).length ≤ packetSize := Nat.zero_le _
  exact ahead_readExact hc hnone

theorem align_onward {bytes : Octets} {stream : Delivery} (losses : Nat)
    (hc : ∀ c ∈ stream.chunks, 0 < c)
    (ahead : bytes.length = packetSize ∨ bytes.length < packetSize ∧ stream.data = []) :
    let found := scanPackets (bytes ++ stream.data)
    (align bytes stream losses).onward = ⟨found.packets, losses + found.losses⟩ ∧
      ∀ c ∈ (align bytes stream losses).stream.chunks, 0 < c := by
  fun_induction align bytes stream losses with
  | case1 bytes stream losses short =>
    obtain ⟨hlt, hdata⟩ := ahead.resolve_left short
    rw [hdata, List.append_nil, scanPackets_short hlt]
    exact ⟨rfl, hc⟩
  | case2 bytes stream losses full hsync =>
    rw [Decidable.not_not] at full
    rw [scanPackets_block ⟨full, hsync⟩]
    exact ⟨rfl, hc⟩
  | case3 bytes stream losses full hsync kept more ih =>
    rw [Decidable.not_not] at full
    obtain ⟨htake, hdrop, hpos⟩ := readExact_eq hc (packetSize - kept.length)
    have hkept : kept.length < packetSize := by
      have hle : kept.length ≤ bytes.tail.length := (List.dropWhile_sublist _).length_le
      rw [List.length_tail, full, packetSize] at hle
      rw [packetSize]
      omega
    have hmore : kept ++ more.1 ++ more.2.data = kept ++ stream.data := by
      rw [List.append_assoc, show more.1 = _ from htake, show more.2.data = _ from hdrop,
        List.take_append_drop]
    obtain ⟨honward, hpos'⟩ := ih hpos (ahead_readExact hc (Nat.le_of_lt hkept))
    refine ⟨?_, hpos'⟩
    rw [hmore] at honward
    rw [honward, scanPackets_unaligned full hsync]
    simp only [kept, Nat.add_assoc, Nat.add_comm 1]

/-- The packet that a stream gives next is the first that a scan finds, and the stream goes on
behind it. -/
theorem nextPacket_onward {stream : Delivery} (hc : ∀ c ∈ stream.chunks, 0 < c) :
    (nextPacket stream).onward = scanPackets stream.data ∧
      ∀ c ∈ (nextPacket stream).stream.chunks, 0 < c := by
  obtain ⟨htake, hdrop, hpos⟩ := readExact_eq hc packetSize
  obtain ⟨honward, hpos'⟩ := align_onward 0 hpos (ahead_nextPacket hc)
  refine ⟨?_, hpos'⟩
  rw [nextPacket, honward, htake, hdrop, List.take_append_drop, Nat.zero_add]

namespace SectionSource

/-- Draining a source takes in the packets that a scan finds. -/
theorem drain_eq_scan (s : SectionSource) (hc : ∀ c ∈ s.stream.chunks, 0 < c) :
    ∃ stream, s.drain = ((scanPackets s.stream.data).packets.foldl feedBytes s).moveTo stream
      (s.syncLosses + (scanPackets s.stream.data).losses) := by
  fun_induction drain s with
  | case1 s next moved h =>
    refine ⟨next.stream, ?_⟩
    rw [← (nextPacket_onward hc).1, Aligned.onward_of_none h]
    rfl
  | case2 s next moved bytes h ih =>
    obtain ⟨honward, hpos⟩ := nextPacket_onward hc
    have hstream : (moved.feedBytes bytes).stream = next.stream := by rw [stream_feedBytes]
    have hmoved : moved = s.moveTo next.stream (s.syncLosses + next.losses) := rfl
    rw [hstream] at ih
    obtain ⟨stream, hdrain⟩ := ih hpos
    refine ⟨stream, ?_⟩
    rw [hdrain, ← honward, Aligned.onward_of_some h, List.foldl_cons, hmoved, feedBytes_moveTo,
      foldl_moveTo, ← Nat.add_assoc]
    rfl

@[simp] theorem packets_collect (s : SectionSource) (bytes : Octets) :
    (s.collect bytes).packets = s.packets := by
  unfold collect
  split <;> rfl

@[simp] theorem packets_takePayload (s : SectionSource) (p : Packet) :
    (s.takePayload p).packets = s.packets := by
  unfold takePayload
  split <;> simp

@[simp] theorem packets_feed (s : SectionSource) (p : Packet) : (s.feed p).packets = s.packets := by
  rcases feed_cases s p with refused | ⟨accepted, next⟩ | ⟨accepted, last, hlast, jump⟩
  · rw [feed_of_refused refused]
  · rw [feed_of_next accepted next, packets_takePayload]
  · rw [feed_of_jump accepted hlast jump, packets_takePayload]

theorem packets_feedBytes (s : SectionSource) (bytes : Octets) :
    (s.feedBytes bytes).packets = s.packets + 1 := by
  unfold feedBytes
  dsimp only
  split <;> simp

theorem packets_foldl (s : SectionSource) (blocks : List Octets) :
    (blocks.foldl feedBytes s).packets = s.packets + blocks.length := by
  induction blocks generalizing s with
  | nil => rfl
  | cons block rest ih =>
    rw [List.foldl_cons, ih, packets_feedBytes, List.length_cons]
    omega

end SectionSource

structure Extract where
  bytes : Octets
  packets : Nat
  counterErrors : Nat
  syncLosses : Nat
  deriving DecidableEq

def SectionSource.extract (sizes : Nat → Nat) (s : SectionSource) : Extract :=
  let out := readOut sizes s
  ⟨out.1, out.2.packets, out.2.counterErrors, out.2.syncLosses⟩

/-- Scans a whole byte string for packets and takes these in. -/
def Extract.ofBytes (pid : Int) (data : Octets) : Extract :=
  let scan := scanPackets data
  let s := scan.packets.foldl SectionSource.feedBytes (.ofStream ⟨[], []⟩ pid)
  ⟨s.ready, scan.packets.length, s.counterErrors, scan.losses⟩

theorem extract_ofStream (data : Octets) {chunks : List Nat} {sizes : Nat → Nat}
    (hc : ∀ c ∈ chunks, 0 < c) (positive : ∀ i, 0 < sizes i) (pid : Int) :
    (SectionSource.ofStream ⟨data, chunks⟩ pid).extract sizes = Extract.ofBytes pid data := by
  obtain ⟨stream, hdrain⟩ := SectionSource.drain_eq_scan (.ofStream ⟨data, chunks⟩ pid) hc
  have hstart : SectionSource.ofStream ⟨data, chunks⟩ pid =
      (SectionSource.ofStream ⟨[], []⟩ pid).moveTo ⟨data, chunks⟩ 0 := rfl
  have hcount := SectionSource.packets_foldl (.ofStream ⟨[], []⟩ pid) (scanPackets data).packets
  rw [SectionSource.extract, SectionSource.readOut_eq_drain positive, hdrain, hstart,
    SectionSource.foldl_moveTo, Extract.ofBytes]
  simp only [SectionSource.moveTo, Extract.mk.injEq, true_and, hcount]
  exact ⟨Nat.zero_add _, Nat.zero_add _⟩

/-- However the same bytes are delivered, and in whatever sizes a source is read to its end, it
gives the same sections and counts the same packets, counter errors and losses of alignment. It is
what one scan of all bytes finds. -/
theorem extract_eq_scan (data : Octets) {chunks chunks' : List Nat} {sizes sizes' : Nat → Nat}
    (hc : ∀ c ∈ chunks, 0 < c) (hc' : ∀ c ∈ chunks', 0 < c) (hs : ∀ i, 0 < sizes i)
    (hs' : ∀ i, 0 < sizes' i) (pid : Int) :
    (SectionSource.ofStream ⟨data, chunks⟩ pid).extract sizes =
        (SectionSource.ofStream ⟨data, chunks'⟩ pid).extract sizes' ∧
      (SectionSource.ofStream ⟨data, chunks⟩ pid).extract sizes = Extract.ofBytes pid data := by
  have hscan := extract_ofStream data hc hs pid
  exact ⟨hscan.trans (extract_ofStream data hc' hs' pid).symm, hscan⟩

def sectionPacket : Octets :=
  [0x47, 0x40, 0x12, 0x10, 0, 0x4E, 0xF0, 2, 7, 8] ++ List.replicate 178 0xFF

def strayBytes : Octets := [0, 1] ++ sectionPacket ++ [0x47, 2]

theorem scanPackets_strayBytes : scanPackets strayBytes = ⟨[sectionPacket], 1⟩ := by
  have hrealigned : realigned strayBytes = sectionPacket ++ [0x47, 2] := by decide +kernel
  rw [scanPackets, dif_neg (by decide), if_neg (by decide), hrealigned,
    scanPackets_block ⟨rfl, rfl⟩, scanPackets_short (by decide)]

theorem extract_strayBytes :
    (∀ c ∈ [1, 2, 100], 0 < c) ∧ (∀ c ∈ [190], 0 < c) ∧ (∀ i, 0 < (fun _ : Nat => 1) i) ∧
      (∀ i, 0 < (fun i : Nat => i + 3) i) ∧
      (SectionSource.ofStream ⟨strayBytes, [1, 2, 100]⟩ 0x12).extract (fun _ => 1) =
        (SectionSource.ofStream ⟨strayBytes, [190]⟩ 0x12).extract (fun i => i + 3) ∧
      (SectionSource.ofStream ⟨strayBytes, [1, 2, 100]⟩ 0x12).extract (fun _ => 1) =
        ⟨[0x4E, 0xF0, 2, 7, 8], 1, 0, 1⟩ := by
  have hc : ∀ c ∈ [1, 2, 100], 0 < c := by decide
  have hc' : ∀ c ∈ [190], 0 < c := by decide
  have hs : ∀ i, 0 < (fun _ : Nat => 1) i := fun _ => Nat.one_pos
  have hs' : ∀ i, 0 < (fun i : Nat => i + 3) i := fun i => Nat.succ_pos (i + 2)
  obtain ⟨hsame, hscan⟩ := extract_eq_scan strayBytes hc hc' hs hs' 0x12
  have hextract : Extract.ofBytes 0x12 strayBytes = ⟨[0x4E, 0xF0, 2, 7, 8], 1, 0, 1⟩ := by
    rw [Extract.ofBytes, scanPackets_strayBytes]
    decide +kernel
  exact ⟨hc, hc', hs, hs', hsame, hscan.trans hextract⟩

end BroadcastGuide.Transport
