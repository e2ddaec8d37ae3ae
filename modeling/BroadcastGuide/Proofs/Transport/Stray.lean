import BroadcastGuide.Proofs.Transport.Alignment

/-! Packets among stray bytes. Whatever a stream holds, each packet that it gives is a block of it
behind the one before, and packets with no sync byte between them are all found. -/

namespace BroadcastGuide.Transport

/-- What a stream answers when it is asked for so many packets in turn. -/
def answers : Nat → Delivery → List (Option Octets)
  | 0, _ => []
  | n + 1, stream => (nextPacket stream).packet? :: answers n (nextPacket stream).stream

/-! ### Any stream -/

theorem readExact_append (stream : Delivery) (n : Nat) :
    (readExact stream n).1 ++ (readExact stream n).2.data = stream.data := by
  fun_induction readExact stream n with
  | case1 => rfl
  | case2 stream n _ answer hempty =>
    have hsplit : answer.1 ++ answer.2.data = stream.data := stream.read_append n
    rwa [List.isEmpty_iff.mp hempty] at hsplit
  | case3 stream n _ answer hne rest ih =>
    have hsplit : answer.1 ++ answer.2.data = stream.data := stream.read_append n
    rw [List.append_assoc, ih, hsplit]

/-- A packet that is aligned stands somewhere in the bytes at hand and those of the stream, and the
stream goes on behind it. -/
theorem align_block {bytes : Octets} {stream : Delivery} {losses : Nat} {packet : Octets}
    (h : (align bytes stream losses).packet? = some packet) :
    IsBlock packet ∧ ∃ skipped, bytes ++ stream.data =
      skipped ++ packet ++ (align bytes stream losses).stream.data := by
  fun_induction align bytes stream losses with
  | case1 => cases h
  | case2 bytes stream losses full hsync =>
    cases h
    exact ⟨⟨Decidable.not_not.mp full, hsync⟩, [], rfl⟩
  | case3 bytes stream losses full hsync kept more ih =>
    obtain ⟨hblock, skipped, hsplit⟩ := ih h
    have hbytes : bytes.take 1 ++ bytes.tail.takeWhile (· ≠ syncByte) ++ kept = bytes := by
      rw [List.append_assoc, List.takeWhile_append_dropWhile, ← List.drop_one,
        List.take_append_drop]
    have hmore : more.1 ++ more.2.data = stream.data := readExact_append _ _
    refine ⟨hblock, bytes.take 1 ++ bytes.tail.takeWhile (· ≠ syncByte) ++ skipped, ?_⟩
    calc bytes ++ stream.data
      _ = bytes.take 1 ++ bytes.tail.takeWhile (· ≠ syncByte) ++ kept ++ stream.data := by
        rw [hbytes]
      _ = bytes.take 1 ++ bytes.tail.takeWhile (· ≠ syncByte) ++
          (kept ++ more.1 ++ more.2.data) := by
        rw [← hmore]
        simp only [List.append_assoc]
      _ = _ := by
        rw [hsplit]
        simp only [List.append_assoc]

/-- Each time that the sync byte is looked for, a byte of the stream is used up, but for the last
time at the end of the stream. -/
theorem losses_align_le (bytes : Octets) (stream : Delivery) (losses : Nat) :
    (align bytes stream losses).losses + (align bytes stream losses).stream.data.length ≤
      losses + stream.data.length + (if bytes.length = packetSize then 1 else 0) := by
  fun_induction align bytes stream losses with
  | case1 => dsimp only; omega
  | case2 => dsimp only; omega
  | case3 bytes stream losses full hsync kept more ih =>
    rw [Decidable.not_not] at full
    have hread := length_readExact_add stream (packetSize - kept.length)
    have hkept : kept.length ≤ bytes.tail.length := (List.dropWhile_sublist _).length_le
    rw [List.length_tail, full, packetSize] at hkept
    rw [if_pos full]
    by_cases hfull : (kept ++ more.1).length = packetSize
    · -- the window is full again, with at least one byte that is new
      rw [if_pos hfull] at ih
      rw [List.length_append, packetSize] at hfull
      simp only [more] at ih hfull hread ⊢
      omega
    · rw [if_neg hfull] at ih
      simp only [more] at ih hread ⊢
      omega

theorem losses_nextPacket_le (stream : Delivery) :
    (nextPacket stream).losses ≤ stream.data.length := by
  have halign := losses_align_le (readExact stream packetSize).1 (readExact stream packetSize).2 0
  have hread := length_readExact_add stream packetSize
  rw [nextPacket]
  by_cases full : (readExact stream packetSize).1.length = packetSize
  · rw [if_pos full] at halign
    rw [full, packetSize] at hread
    rw [packetSize] at halign ⊢
    omega
  · rw [if_neg full] at halign
    omega

theorem nextPacket_infix {stream : Delivery} {packet : Octets}
    (h : (nextPacket stream).packet? = some packet) :
    IsBlock packet ∧ ∃ skipped,
      stream.data = skipped ++ packet ++ (nextPacket stream).stream.data := by
  have hblock := align_block h
  rwa [readExact_append] at hblock

theorem align_suffix (bytes : Octets) (stream : Delivery) (losses : Nat) :
    (align bytes stream losses).stream.data <:+ stream.data := by
  fun_induction align bytes stream losses with
  | case1 => exact List.suffix_rfl
  | case2 => exact List.suffix_rfl
  | case3 bytes stream losses full hsync kept more ih => exact ih.trans ⟨_, readExact_append _ _⟩

theorem nextPacket_suffix (stream : Delivery) :
    (nextPacket stream).stream.data <:+ stream.data :=
  (align_suffix _ _ 0).trans ⟨_, readExact_append stream packetSize⟩

/-- Every answer of a stream is a block of its bytes. -/
theorem mem_answers {stream : Delivery} {n : Nat} {packet : Octets}
    (h : some packet ∈ answers n stream) : IsBlock packet ∧ packet <:+: stream.data := by
  induction n generalizing stream with
  | zero => cases h
  | succ n ih =>
    rw [answers, List.mem_cons] at h
    rcases h with hfirst | hlater
    · obtain ⟨hblock, skipped, hsplit⟩ := nextPacket_infix hfirst.symm
      exact ⟨hblock, skipped, _, hsplit.symm⟩
    · obtain ⟨hblock, hwithin⟩ := ih hlater
      exact ⟨hblock, hwithin.trans (nextPacket_suffix stream).isInfix⟩

/-! ### Streams with packets among stray bytes -/

theorem data_align_of_none {bytes : Octets} {stream : Delivery} {losses : Nat}
    (hc : ∀ c ∈ stream.chunks, 0 < c)
    (ahead : bytes.length = packetSize ∨ bytes.length < packetSize ∧ stream.data = [])
    (h : (align bytes stream losses).packet? = none) :
    (align bytes stream losses).stream.data = [] := by
  fun_induction align bytes stream losses with
  | case1 bytes stream losses short => exact (ahead.resolve_left short).2
  | case2 => cases h
  | case3 bytes stream losses full hsync kept more ih =>
    have hkept : kept.length ≤ bytes.tail.length := (List.dropWhile_sublist _).length_le
    rw [Decidable.not_not] at full
    rw [List.length_tail, full] at hkept
    exact ih (readExact_eq hc _).2.2 (ahead_readExact hc (by omega)) h

/-- A stream that has no packet more has nothing more. -/
theorem data_nextPacket_of_none {stream : Delivery} (hc : ∀ c ∈ stream.chunks, 0 < c)
    (h : (nextPacket stream).packet? = none) : (nextPacket stream).stream.data = [] :=
  data_align_of_none (readExact_eq hc packetSize).2.2
    (ahead_nextPacket hc) h

/-- Asked on and on, a stream gives the packets that a scan finds, and then none. -/
theorem answers_eq_scan {stream : Delivery} (hc : ∀ c ∈ stream.chunks, 0 < c)
    {packets : List Octets} (h : (scanPackets stream.data).packets = packets) (k : Nat) :
    answers (packets.length + k) stream = packets.map some ++ List.replicate k none := by
  induction packets generalizing stream with
  | nil =>
    rw [List.length_nil, Nat.zero_add, List.map_nil, List.nil_append]
    induction k generalizing stream with
    | zero => rfl
    | succ k ih =>
      obtain ⟨honward, hpos⟩ := nextPacket_onward hc
      cases hnext : (nextPacket stream).packet? with
      | some packet =>
        rw [← honward, Aligned.onward_of_some hnext] at h
        cases h
      | none =>
        have hover : (scanPackets (nextPacket stream).stream.data).packets = [] := by
          rw [data_nextPacket_of_none hc hnext, scanPackets_short (by decide)]
        rw [answers, hnext, ih hpos hover, List.replicate_succ]
  | cons packet rest ih =>
    obtain ⟨honward, hpos⟩ := nextPacket_onward hc
    cases hnext : (nextPacket stream).packet? with
    | none =>
      rw [← honward, Aligned.onward_of_none hnext] at h
      cases h
    | some first =>
      rw [← honward, Aligned.onward_of_some hnext] at h
      obtain ⟨rfl, hrest⟩ := List.cons.inj h
      rw [List.length_cons, Nat.add_right_comm, answers, hnext, ih hpos hrest]
      rfl

/-- Bytes without the sync byte cost as many bytes of the window, and nothing behind them. -/
theorem realigned_gap {gap rest : Octets} (noSync : syncByte ∉ gap) (some_gap : gap ≠ [])
    (hrest : ∀ b ∈ rest.head?, b = syncByte) :
    realigned (gap ++ rest) = gap.drop packetSize ++ rest := by
  have hwindow : gap.take packetSize ≠ [] := by
    intro hnil
    rcases List.take_eq_nil_iff.mp hnil with hzero | hgap
    · exact absurd hzero (by decide)
    · exact some_gap hgap
  have hstray : ∀ b ∈ (gap.take packetSize).tail, decide (b ≠ syncByte) = true := by
    intro b hb
    have hmem : b ∈ gap := List.mem_of_mem_take (List.mem_of_mem_tail hb)
    exact decide_eq_true fun hsync => noSync (hsync ▸ hmem)
  have hkept : (rest.take (packetSize - gap.length)).dropWhile (· ≠ syncByte) =
      rest.take (packetSize - gap.length) := by
    cases hcut : rest.take (packetSize - gap.length) with
    | nil => rfl
    | cons b tail =>
      have hhead := List.head?_take (l := rest) (i := packetSize - gap.length)
      rw [hcut, List.head?_cons] at hhead
      have hsync : b = syncByte := by
        split at hhead
        · cases hhead
        · exact hrest b hhead.symm
      exact List.dropWhile_cons_of_neg (by simp [hsync])
  rw [realigned, List.take_append, List.tail_append_of_ne_nil hwindow,
    List.dropWhile_append_of_pos hstray, hkept, List.drop_append]
  rcases Nat.le_total packetSize gap.length with long | short
  · rw [Nat.sub_eq_zero_of_le long, List.take_zero, List.drop_zero, List.nil_append]
  · rw [List.drop_of_length_le short, List.nil_append, List.nil_append, List.take_append_drop]

/-- A scan finds what it finds behind bytes without the sync byte. -/
theorem packets_gap_append {gap rest : Octets} (noSync : syncByte ∉ gap)
    (hrest : ∀ b ∈ rest.head?, b = syncByte) :
    (scanPackets (gap ++ rest)).packets = (scanPackets rest).packets := by
  induction hk : gap.length using Nat.strongRecOn generalizing gap with
  | ind k ih =>
    cases gap with
    | nil => rfl
    | cons b tail =>
      by_cases short : (b :: tail ++ rest).length < packetSize
      · have hshort : rest.length < packetSize := by
          rw [List.length_append] at short
          omega
        rw [scanPackets_short short, scanPackets_short hshort]
      · have hhead : (b :: tail ++ rest).head? ≠ some syncByte := by
          intro hsync
          cases hsync
          exact noSync List.mem_cons_self
        have hdropped : syncByte ∉ (b :: tail).drop packetSize :=
          fun hmem => noSync (List.mem_of_mem_drop hmem)
        rw [scanPackets, dif_neg short, if_neg hhead,
          realigned_gap noSync (List.cons_ne_nil b tail) hrest]
        refine ih _ ?_ hdropped rfl
        rw [← hk, List.length_drop, packetSize, List.length_cons]
        omega

/-- A packet, and bytes ahead of it with no sync byte among them. -/
structure Spaced where
  gap : Octets
  block : Octets
  noSync : syncByte ∉ gap
  isBlock : IsBlock block

def Spaced.bytes (s : Spaced) : Octets := s.gap ++ s.block

theorem packets_spaced (spaced : List Spaced) {last : Octets} (noSync : syncByte ∉ last) :
    (scanPackets (spaced.flatMap Spaced.bytes ++ last)).packets = spaced.map Spaced.block := by
  induction spaced with
  | nil =>
    have hlast : (scanPackets (last ++ [])).packets = (scanPackets []).packets :=
      packets_gap_append noSync (by simp)
    rw [List.append_nil, scanPackets_short (by decide : ([] : Octets).length < packetSize)] at hlast
    exact hlast
  | cons s rest ih =>
    have hhead : ∀ b ∈ (s.block ++ (rest.flatMap Spaced.bytes ++ last)).head?, b = syncByte := by
      intro b hb
      rw [List.head?_append, s.isBlock.2] at hb
      exact (Option.some.inj hb).symm
    rw [List.flatMap_cons, Spaced.bytes, List.append_assoc, List.append_assoc,
      packets_gap_append s.noSync hhead, scanPackets_block s.isBlock, ih, List.map_cons]

/-- Packets with any bytes but the sync byte around them are all found, in their order, and then
there are none. Whatever a stream holds, it looks for the sync byte at most as often as it has
bytes, and a packet that it gives is a block of them. -/
theorem answers_spaced (spaced : List Spaced) {last : Octets} (noSync : syncByte ∉ last)
    {chunks : List Nat} (hc : ∀ c ∈ chunks, 0 < c) (k : Nat) :
    answers (spaced.length + k) ⟨spaced.flatMap Spaced.bytes ++ last, chunks⟩ =
        spaced.map (some ∘ Spaced.block) ++ List.replicate k none ∧
      ∀ stream : Delivery, (nextPacket stream).losses ≤ stream.data.length ∧
        (∀ packet, (nextPacket stream).packet? = some packet → IsBlock packet ∧
          ∃ skipped, stream.data = skipped ++ packet ++ (nextPacket stream).stream.data) ∧
        ∀ n packet, some packet ∈ answers n stream →
          IsBlock packet ∧ packet <:+: stream.data := by
  let stream : Delivery := ⟨spaced.flatMap Spaced.bytes ++ last, chunks⟩
  have hscan : (scanPackets stream.data).packets = spaced.map Spaced.block :=
    packets_spaced spaced noSync
  have hasked := answers_eq_scan hc hscan k
  rw [List.length_map, List.map_map] at hasked
  exact ⟨hasked, fun stream => ⟨losses_nextPacket_le stream, fun _ h => nextPacket_infix h,
    fun _ _ h => mem_answers h⟩⟩

/-- A packet whose payload is all sync bytes, behind more stray bytes than a packet has. -/
def falseSyncs : Spaced where
  gap := List.replicate 200 0
  block := List.replicate packetSize syncByte
  noSync := fun h => absurd (List.eq_of_mem_replicate h) (by decide)
  isBlock := ⟨List.length_replicate, rfl⟩

def afterStray : Spaced where
  gap := [0, 1]
  block := sectionPacket
  noSync := by decide
  isBlock := ⟨rfl, rfl⟩

theorem answers_falseSyncs :
    syncByte ∉ [2, 3] ∧ (∀ c ∈ [1, 2, 100], 0 < c) ∧
      answers 4 ⟨[afterStray, falseSyncs].flatMap Spaced.bytes ++ [2, 3], [1, 2, 100]⟩ =
        [some sectionPacket, some (List.replicate packetSize syncByte), none, none] := by
  have noSync : syncByte ∉ [2, 3] := by decide
  have hc : ∀ c ∈ [1, 2, 100], 0 < c := by decide
  exact ⟨noSync, hc, (answers_spaced [afterStray, falseSyncs] noSync hc 2).1⟩

end BroadcastGuide.Transport
