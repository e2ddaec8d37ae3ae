import BroadcastGuide.Delivery
import BroadcastGuide.Section.Frame
import BroadcastGuide.Transport.Packet

/-!
Sections out of a transport stream. A section starts where a packet's pointer says and goes on over
the packets that follow it; a gap in their counters drops the section in progress.
-/

namespace BroadcastGuide.Transport

def readExact (stream : Delivery) (n : Nat) : Octets × Delivery :=
  if n = 0 then ([], stream)
  else
    let answer := stream.read n
    if answer.1.isEmpty then ([], answer.2)
    else
      let rest := readExact answer.2 (n - answer.1.length)
      (answer.1 ++ rest.1, rest.2)
termination_by stream.data.length
decreasing_by
  rename_i hne
  have h₁ := stream.length_read_add n
  have h₂ : 0 < (stream.read n).1.length := by
    simpa [List.length_pos_iff, answer] using hne
  omega

theorem length_readExact_add (stream : Delivery) (n : Nat) :
    (readExact stream n).1.length + (readExact stream n).2.data.length = stream.data.length := by
  fun_induction readExact stream n with
  | case1 => simp
  | case2 stream n _ answer h =>
    have := stream.length_read_add n
    simp only [List.isEmpty_iff] at h
    simpa [answer, h] using this
  | case3 stream n _ answer h rest ih =>
    have := stream.length_read_add n
    simp only [List.length_append]
    simp only [rest, answer] at ih ⊢
    omega

/-- A packet's bytes, the stream after them, and how often the sync byte had to be looked for. -/
structure Aligned where
  packet? : Option Octets
  stream : Delivery
  losses : Nat

/-- Moves on to the next sync byte until a whole packet starts with one. -/
def align (bytes : Octets) (stream : Delivery) (losses : Nat) : Aligned :=
  if bytes.length ≠ packetSize then ⟨none, stream, losses⟩
  else if bytes.head? = some syncByte then ⟨some bytes, stream, losses⟩
  else
    let kept := bytes.tail.dropWhile (· ≠ syncByte)
    let more := readExact stream (packetSize - kept.length)
    align (kept ++ more.1) more.2 (losses + 1)
termination_by stream.data.length + (if bytes.length = packetSize then 1 else 0)
decreasing_by
  rename_i h₁ _
  have h := length_readExact_add stream (packetSize - kept.length)
  have hk : kept.length ≤ bytes.tail.length := (List.dropWhile_sublist _).length_le
  simp only [List.length_tail] at hk
  simp only [ne_eq, Decidable.not_not] at h₁
  rw [if_pos h₁]
  show more.2.data.length + (if (kept ++ more.1).length = packetSize then 1 else 0) < _
  by_cases hl : (kept ++ more.1).length = packetSize
  · rw [if_pos hl]
    rw [List.length_append] at hl
    simp only [more, packetSize] at *
    omega
  · rw [if_neg hl]
    simp only [more, packetSize] at *
    omega

def nextPacket (stream : Delivery) : Aligned :=
  let first := readExact stream packetSize
  align first.1 first.2 0

/-- Whole sections at the head of the bytes collected, and what is left of them. Stuffing ends the
collection. -/
def splitSections (bytes : Octets) : Octets × Option Octets :=
  match bytes with
  | [] => ([], some [])
  | b :: rest =>
    if b = 0xFF then ([], none)
    else
      let size := 3 + declaredLength (b :: rest)
      if rest.length + 1 < 3 ∨ rest.length + 1 < size then ([], some (b :: rest))
      else
        let tail := splitSections ((b :: rest).drop size)
        ((b :: rest).take size ++ tail.1, tail.2)
termination_by bytes.length
decreasing_by
  simp only [List.length_drop, List.length_cons]
  omega

/-- A stream, the sections found but not yet read, and the section in progress. -/
structure SectionSource where
  stream : Delivery
  pid : Int
  ready : Octets
  inProgress : Option Octets
  lastCounter : Option Nat
  packets : Nat
  counterErrors : Nat
  syncLosses : Nat
  deriving DecidableEq, Repr

namespace SectionSource

def ofStream (stream : Delivery) (pid : Int) : SectionSource :=
  ⟨stream, pid, [], none, none, 0, 0, 0⟩

def collect (s : SectionSource) (bytes : Octets) : SectionSource :=
  match s.inProgress with
  | none => s
  | some collected =>
    let (finished, left) := splitSections (collected ++ bytes)
    { s with ready := s.ready ++ finished, inProgress := left }

/-- Takes the payload of a packet in. A first byte that is a pointer tells where a section starts;
what stands ahead of it belongs to the section in progress. -/
def takePayload (s : SectionSource) (p : Packet) : SectionSource :=
  if p.startsUnit then
    let pointer := (p.payload.headD 0).toNat
    let body := p.payload.drop 1
    { s.collect (body.take pointer) with inProgress := some [] }.collect (body.drop pointer)
  else s.collect p.payload

/-- Only packets of the stream with payload and without error count. -/
def isWanted (s : SectionSource) (p : Packet) : Bool :=
  s.pid == p.pid && !p.hasError && p.hasPayload

/-- Takes a packet in. A repeated counter marks a repeated packet, any other jump a loss. -/
def feed (s : SectionSource) (p : Packet) : SectionSource :=
  if s.isWanted p then
    match s.lastCounter with
    | none => { s with lastCounter := some p.counter }.takePayload p
    | some last =>
      if p.counter = last then s
      else if p.counter = (last + 1) % 16 then
        { s with lastCounter := some p.counter }.takePayload p
      else
        { s with
          lastCounter := some p.counter
          counterErrors := s.counterErrors + 1
          inProgress := none }.takePayload p
  else s

/-- Takes the bytes of a packet in; a malformed packet is counted and passed over. -/
def feedBytes (s : SectionSource) (bytes : Octets) : SectionSource :=
  let s := { s with packets := s.packets + 1 }
  match Packet.ofBytes bytes with
  | .ok p => s.feed p
  | .error _ => s

def held (s : SectionSource) : Nat := (s.inProgress.getD []).length + s.ready.length

end SectionSource

/-! ### Nothing is read that the stream did not bring -/

theorem align_packet {bytes : Octets} {stream : Delivery} {losses : Nat} {packet : Octets}
    (h : (align bytes stream losses).packet? = some packet) :
    packet.length = packetSize ∧
      (align bytes stream losses).stream.data.length + packetSize ≤
        bytes.length + stream.data.length := by
  fun_induction align bytes stream losses with
  | case1 => cases h
  | case2 bytes stream losses hl _ =>
    cases h
    simp only [ne_eq, Decidable.not_not] at hl
    refine ⟨hl, ?_⟩
    dsimp only
    omega
  | case3 bytes stream losses hl _ kept more ih =>
    have ⟨h₁, h₂⟩ := ih h
    refine ⟨h₁, ?_⟩
    have h₃ := length_readExact_add stream (packetSize - kept.length)
    have hk : kept.length ≤ bytes.tail.length := (List.dropWhile_sublist _).length_le
    simp only [List.length_tail] at hk
    rw [List.length_append] at h₂
    simp only [more] at h₂ ⊢
    omega

theorem align_length_le (bytes : Octets) (stream : Delivery) (losses : Nat) :
    (align bytes stream losses).stream.data.length ≤ stream.data.length := by
  fun_induction align bytes stream losses with
  | case1 => exact Nat.le_refl _
  | case2 => exact Nat.le_refl _
  | case3 bytes stream losses _ _ kept more ih =>
    have h₃ := length_readExact_add stream (packetSize - kept.length)
    simp only [more] at ih ⊢
    omega

theorem nextPacket_packet {stream : Delivery} {packet : Octets}
    (h : (nextPacket stream).packet? = some packet) :
    packet.length = packetSize ∧
      (nextPacket stream).stream.data.length + packetSize ≤ stream.data.length := by
  have h₁ := align_packet h
  have h₂ := length_readExact_add stream packetSize
  refine ⟨h₁.1, ?_⟩
  have h₃ := h₁.2
  simp only [nextPacket] at h₃ ⊢
  omega

theorem nextPacket_length_le (stream : Delivery) :
    (nextPacket stream).stream.data.length ≤ stream.data.length := by
  have h₁ := length_readExact_add stream packetSize
  have h₂ := align_length_le (readExact stream packetSize).1 (readExact stream packetSize).2 0
  simp only [nextPacket]
  omega

theorem length_splitSections_le (bytes : Octets) :
    (splitSections bytes).1.length + ((splitSections bytes).2.getD []).length ≤ bytes.length := by
  fun_induction splitSections bytes with
  | case1 => simp
  | case2 => simp
  | case3 b rest _ size _ => simp
  | case4 b rest _ size h tail ih =>
    simp only [List.length_drop, List.length_cons, List.length_append, List.length_take] at ih ⊢
    simp only [tail]
    omega

namespace SectionSource

@[simp] theorem stream_collect (s : SectionSource) (bytes : Octets) :
    (s.collect bytes).stream = s.stream := by
  unfold collect
  split <;> rfl

theorem held_collect_le (s : SectionSource) (bytes : Octets) :
    (s.collect bytes).held ≤ s.held + bytes.length := by
  unfold collect
  split
  · omega
  · rename_i collected hc
    have h := length_splitSections_le (collected ++ bytes)
    simp only [List.length_append] at h
    simp only [held, hc, List.length_append, Option.getD_some]
    omega

@[simp] theorem stream_takePayload (s : SectionSource) (p : Packet) :
    (s.takePayload p).stream = s.stream := by
  unfold takePayload
  split <;> simp

theorem held_takePayload_le (s : SectionSource) (p : Packet) :
    (s.takePayload p).held ≤ s.held + p.payload.length := by
  unfold takePayload
  split
  · dsimp only
    refine Nat.le_trans (held_collect_le _ _) ?_
    have h := held_collect_le s ((p.payload.drop 1).take (p.payload.headD 0).toNat)
    simp only [held, Option.getD_some, List.length_nil, List.length_take, List.length_drop] at h ⊢
    omega
  · exact held_collect_le _ _

@[simp] theorem stream_feed (s : SectionSource) (p : Packet) : (s.feed p).stream = s.stream := by
  unfold feed
  split
  · split
    · simp
    · split
      · rfl
      · split <;> simp
  · rfl

theorem held_feed_le (s : SectionSource) (p : Packet) :
    (s.feed p).held ≤ s.held + p.payload.length := by
  unfold feed
  split
  · split
    · exact held_takePayload_le _ _
    · split
      · omega
      · split
        · exact held_takePayload_le _ _
        · refine Nat.le_trans (held_takePayload_le _ _) ?_
          simp only [held, Option.getD_none, List.length_nil]
          omega
  · omega

@[simp] theorem stream_feedBytes (s : SectionSource) (bytes : Octets) :
    (s.feedBytes bytes).stream = s.stream := by
  unfold feedBytes
  dsimp only
  split <;> simp

end SectionSource

theorem Packet.length_payload_le {bytes : Octets} {p : Packet} (h : Packet.ofBytes bytes = .ok p) :
    p.payload.length ≤ packetSize := by
  unfold Packet.ofBytes at h
  split at h
  · cases h
  · split at h
    · split at h
      · cases h
      · dsimp only at h
        split at h
        · cases h
        · cases h
          dsimp only
          split
          · simp only [List.length_drop, List.length_take]
            omega
          · simp
    · cases h

namespace SectionSource

theorem held_feedBytes_le (s : SectionSource) (bytes : Octets) :
    (s.feedBytes bytes).held ≤ s.held + packetSize := by
  unfold feedBytes
  dsimp only
  split
  · rename_i p hp
    have h := held_feed_le { s with packets := s.packets + 1 } p
    have := Packet.length_payload_le hp
    simp only [held] at h ⊢
    omega
  · simp only [held]
    omega

/-- Takes packets in until a section is ready or the stream ends. -/
def fill (s : SectionSource) : SectionSource :=
  if s.ready.isEmpty then
    let next := nextPacket s.stream
    let moved := { s with stream := next.stream, syncLosses := s.syncLosses + next.losses }
    match _h : next.packet? with
    | none => moved
    | some bytes => fill (moved.feedBytes bytes)
  else s
termination_by s.stream.data.length
decreasing_by
  have := (nextPacket_packet _h).2
  simp only [stream_feedBytes, packetSize] at this ⊢
  omega

theorem fill_length_le (s : SectionSource) :
    s.fill.held + s.fill.stream.data.length ≤ s.held + s.stream.data.length := by
  fun_induction fill s with
  | case1 s _ next moved h =>
    have := nextPacket_length_le s.stream
    simp only [moved, next, held] at this ⊢
    omega
  | case2 s _ next moved bytes h ih =>
    have h₁ := (nextPacket_packet h).2
    have h₂ := held_feedBytes_le moved bytes
    have h₃ : moved.held = s.held := rfl
    have h₄ : (moved.feedBytes bytes).stream = (nextPacket s.stream).stream := by simp [moved, next]
    rw [h₄] at ih
    omega
  | case3 => exact Nat.le_refl _

/-- The first bytes of what is ready. A negative size leaves that many bytes behind. -/
def read (s : SectionSource) (size : Int) : Octets × SectionSource :=
  let count := if 0 ≤ size then size.toNat else s.fill.ready.length - (-size).toNat
  (s.fill.ready.take count, { s.fill with ready := s.fill.ready.drop count })

instance : ByteSource SectionSource where
  read s n := s.read n
  remaining s := s.held + s.stream.data.length
  length_read_le s n := by
    simp only [read, Int.natCast_nonneg, if_true, Int.toNat_natCast, List.length_take]
    omega
  remaining_read_le s n := by
    have := fill_length_le s
    simp only [read, held, List.length_take, List.length_drop] at this ⊢
    omega

end SectionSource

end BroadcastGuide.Transport
