import BroadcastGuide.Proofs.Descriptor.Encoding
import BroadcastGuide.Proofs.Failure

/-! Descriptor loops as blocks one after another. A walk finds the blocks up to the place where one
breaks off. What a loop says is what its parts say in turn, so a malformed descriptor costs itself
and no other. -/

namespace BroadcastGuide

namespace DescriptorBlock

def Fits (b : DescriptorBlock) : Prop := b.payload.length ≤ 255

instance (b : DescriptorBlock) : Decidable b.Fits :=
  inferInstanceAs (Decidable (b.payload.length ≤ 255))

inductive BreaksOff : Octets → Prop
  | header (tag : UInt8) : BreaksOff [tag]
  | payload (tag length : UInt8) {rest : Octets} (short : rest.length < length.toNat) :
      BreaksOff (tag :: length :: rest)

def faultAt (offset size : Nat) : Octets → Option DecodeError
  | [] => none
  | [_] => some (.descriptorHeaderOverrun offset size)
  | tag :: length :: _ => some (.descriptorOverrun tag.toNat length.toNat offset size)

variable {blocks : List DescriptorBlock} {rest : Octets}

theorem faultAt_eq_none_iff {offset size : Nat} : faultAt offset size rest = none ↔ rest = [] := by
  match rest with
  | [] => simp [faultAt]
  | [_] => simp [faultAt]
  | _ :: _ :: _ => simp [faultAt]

theorem walkFrom_of_breaksOff (h : BreaksOff rest) (offset size : Nat) :
    walkFrom offset size rest = ⟨[], faultAt offset size rest⟩ := by
  cases h with
  | header tag =>
    rw [walkFrom]
    rfl
  | payload tag length short =>
    rw [walkFrom, if_pos short]
    rfl

/-- A walk finds nothing where a loop ends or a block breaks off. -/
theorem walkFrom_of_stops (h : rest = [] ∨ BreaksOff rest) (offset size : Nat) :
    walkFrom offset size rest = ⟨[], faultAt offset size rest⟩ := by
  rcases h with rfl | breaksOff
  · rw [walkFrom]
    rfl
  · exact walkFrom_of_breaksOff breaksOff offset size

/-- Bytes are the end of a loop, or a block stands at their front, whole or broken off. -/
theorem stops_or_exists_encode (bytes : Octets) :
    (bytes = [] ∨ BreaksOff bytes) ∨
      ∃ (b : DescriptorBlock) (rest : Octets), b.Fits ∧ bytes = b.encode ++ rest := by
  match bytes with
  | [] => exact .inl (.inl rfl)
  | [tag] => exact .inl (.inr (.header tag))
  | tag :: length :: rest =>
    by_cases short : rest.length < length.toNat
    · exact .inl (.inr (.payload tag length short))
    · have hpayload : (rest.take length.toNat).length = length.toNat :=
        List.length_take_of_le (Nat.le_of_not_lt short)
      have hlength := length.toNat_lt
      refine .inr ⟨⟨tag, rest.take length.toNat⟩, rest.drop length.toNat, ?_, ?_⟩
      · rw [Fits, hpayload]
        omega
      · rw [encode, hpayload, UInt8.ofNat_toNat, List.cons_append, List.cons_append,
          List.take_append_drop]

/-- Any bytes are blocks one after another, and at the end of them perhaps one that breaks off. -/
theorem exists_blocks (bytes : Octets) :
    ∃ (blocks : List DescriptorBlock) (rest : Octets), bytes = blocks.flatMap encode ++ rest ∧
      (∀ b ∈ blocks, b.Fits) ∧ (rest = [] ∨ BreaksOff rest) := by
  induction hn : bytes.length using Nat.strongRecOn generalizing bytes with
  | ind n ih =>
    rcases stops_or_exists_encode bytes with stops | ⟨b, rest, fits, rfl⟩
    · exact ⟨[], bytes, rfl, fun _ hb => absurd hb List.not_mem_nil, stops⟩
    · have shorter : rest.length < n := by
        rw [← hn, encode]
        simp only [List.length_append, List.length_cons]
        omega
      obtain ⟨blocks, last, hrest, hfits, hstops⟩ := ih rest.length shorter rest rfl
      refine ⟨b :: blocks, last, ?_, List.forall_mem_cons.mpr ⟨fits, hfits⟩, hstops⟩
      rw [List.flatMap_cons, List.append_assoc, ← hrest]

/-- A walk finds those blocks, and its fault is that of the block that breaks off. -/
theorem walk_blocks (fits : ∀ b ∈ blocks, b.Fits) (stops : rest = [] ∨ BreaksOff rest) :
    let loop := blocks.flatMap encode ++ rest
    walk loop = ⟨blocks, faultAt (blocks.flatMap encode).length loop.length rest⟩ := by
  have hsize : ∀ b ∈ blocks, b.payload.length < 256 := fun b hb => Nat.lt_succ_of_le (fits b hb)
  simp only [walk, walkFrom_append hsize, walkFrom_of_stops stops, Nat.zero_add, List.append_nil]

theorem walk_flatMap_encode (fits : ∀ b ∈ blocks, b.Fits) :
    walk (blocks.flatMap encode) = ⟨blocks, none⟩ :=
  walkFrom_encode (fun b hb => Nat.lt_succ_of_le (fits b hb)) 0 _

/-- The blocks whose bytes make a loop are found in it. In any loop the bytes of the blocks that are
found stand at its front; the walk ends with a fault if and only if something is left behind them,
and then a block breaks off there. -/
theorem walk_encode :
    (∀ blocks : List DescriptorBlock, (∀ b ∈ blocks, b.payload.length ≤ 255) →
        walk (blocks.flatMap encode) = ⟨blocks, none⟩) ∧
      ∀ loop : Octets, ∃ rest, loop = (walk loop).blocks.flatMap encode ++ rest ∧
        (∀ b ∈ (walk loop).blocks, b.payload.length ≤ 255) ∧
        ((walk loop).fault = none ↔ rest = []) ∧ (rest ≠ [] → BreaksOff rest) ∧
        (walk loop).fault =
          faultAt ((walk loop).blocks.flatMap encode).length loop.length rest := by
  constructor
  · exact fun blocks fits => walk_flatMap_encode fits
  · intro loop
    obtain ⟨blocks, rest, rfl, fits, stops⟩ := exists_blocks loop
    rw [walk_blocks fits stops]
    exact ⟨rest, rfl, fits, faultAt_eq_none_iff, stops.resolve_left, rfl⟩

/-- A block of the largest size, and one of none. -/
def largestAndEmpty : List DescriptorBlock := [⟨0x4D, List.replicate 255 0xFF⟩, ⟨0x99, []⟩]

theorem walk_encode_largestAndEmpty :
    (∀ b ∈ largestAndEmpty, b.payload.length ≤ 255) ∧
      walk (largestAndEmpty.flatMap encode) = ⟨largestAndEmpty, none⟩ := by
  have fits : ∀ b ∈ largestAndEmpty, b.payload.length ≤ 255 :=
    List.forall_mem_cons.mpr ⟨Nat.le_of_eq List.length_replicate,
      List.forall_mem_singleton.mpr (Nat.zero_le 255)⟩
  exact ⟨fits, walk_encode.1 largestAndEmpty fits⟩

end DescriptorBlock

namespace DescriptorLoop

open DescriptorBlock (BreaksOff encode walk)

def append (front back : DescriptorLoop) : DescriptorLoop :=
  ⟨front.descriptors ++ back.descriptors, front.dropped ++ back.dropped⟩

instance : Append DescriptorLoop := ⟨append⟩

def ofBlock (b : DescriptorBlock) : DescriptorLoop :=
  match Descriptor.ofPayload b.tag b.payload with
  | .ok d => ⟨[d], []⟩
  | .error e => ⟨[], [⟨b.tag, e⟩]⟩

def IsFramed (loop : Octets) : Prop := (walk loop).fault = none

variable {blocks : List DescriptorBlock} {loop rest : Octets} {b : DescriptorBlock}
  {read : DescriptorLoop}

theorem append_def (front back : DescriptorLoop) :
    front ++ back = ⟨front.descriptors ++ back.descriptors, front.dropped ++ back.dropped⟩ := rfl

theorem append_assoc (first second third : DescriptorLoop) :
    first ++ second ++ third = first ++ (second ++ third) := by
  simp only [append_def, List.append_assoc]

theorem ofBlocks_cons : ofBlocks (b :: blocks) = ofBlock b ++ ofBlocks blocks := by
  rw [ofBlocks, ofBlock, append_def]
  cases Descriptor.ofPayload b.tag b.payload with
  | ok d => rfl
  | error e => rfl

theorem ofBlocks_singleton : ofBlocks [b] = ofBlock b := by
  rw [ofBlocks_cons, append_def, ofBlocks, List.append_nil, List.append_nil]

theorem ofBlocks_append (front back : List DescriptorBlock) :
    ofBlocks (front ++ back) = ofBlocks front ++ ofBlocks back := by
  induction front with
  | nil => rfl
  | cons b others ih => rw [List.cons_append, ofBlocks_cons, ih, ofBlocks_cons, append_assoc]

theorem length_ofBlock (b : DescriptorBlock) :
    (ofBlock b).descriptors.length + (ofBlock b).dropped.length = 1 := by
  rw [ofBlock]
  cases Descriptor.ofPayload b.tag b.payload with
  | ok d => rfl
  | error e => rfl

/-- Each block gives a descriptor or an error. -/
theorem length_ofBlocks (blocks : List DescriptorBlock) :
    (ofBlocks blocks).descriptors.length + (ofBlocks blocks).dropped.length = blocks.length := by
  induction blocks with
  | nil => rfl
  | cons b others ih =>
    have hb := length_ofBlock b
    rw [ofBlocks_cons, append_def]
    simp only [List.length_append, List.length_cons]
    omega

theorem ofBytes_blocks (fits : ∀ b ∈ blocks, b.Fits) :
    ofBytes (blocks.flatMap encode) = .ok (ofBlocks blocks) := by
  rw [ofBytes, DescriptorBlock.walk_flatMap_encode fits]

theorem ofBytes_breaksOff (fits : ∀ b ∈ blocks, b.Fits) (breaksOff : BreaksOff rest) :
    ∃ e, ofBytes (blocks.flatMap encode ++ rest) = .error e := by
  rw [ofBytes, DescriptorBlock.walk_blocks fits (.inr breaksOff)]
  cases breaksOff with
  | header tag => exact ⟨_, rfl⟩
  | payload tag length short => exact ⟨_, rfl⟩

theorem isFramed_blocks (fits : ∀ b ∈ blocks, b.Fits) : IsFramed (blocks.flatMap encode) := by
  rw [IsFramed, DescriptorBlock.walk_flatMap_encode fits]

theorem exists_blocks_of_isFramed (framed : IsFramed loop) :
    ∃ blocks : List DescriptorBlock, (∀ b ∈ blocks, b.Fits) ∧ loop = blocks.flatMap encode := by
  obtain ⟨blocks, rest, rfl, fits, stops⟩ := DescriptorBlock.exists_blocks loop
  rw [IsFramed, DescriptorBlock.walk_blocks fits stops] at framed
  have hrest := DescriptorBlock.faultAt_eq_none_iff.mp framed
  exact ⟨blocks, fits, by rw [hrest, List.append_nil]⟩

/-- A loop with a reading is made of blocks, and its reading is theirs. -/
theorem exists_blocks_of_ofBytes (h : ofBytes loop = .ok read) :
    ∃ blocks : List DescriptorBlock, (∀ b ∈ blocks, b.Fits) ∧ loop = blocks.flatMap encode ∧
      read = ofBlocks blocks := by
  obtain ⟨blocks, rest, rfl, fits, rfl | breaksOff⟩ := DescriptorBlock.exists_blocks loop
  · rw [List.append_nil] at h ⊢
    rw [ofBytes_blocks fits] at h
    exact ⟨blocks, fits, rfl, (Except.ok.inj h).symm⟩
  · obtain ⟨e, he⟩ := ofBytes_breaksOff fits breaksOff
    rw [he] at h
    cases h

/-- Behind blocks, bytes are read as they are alone. -/
theorem ofBytes_blocks_append_iff (fits : ∀ b ∈ blocks, b.Fits) {bytes : Octets} :
    ofBytes (blocks.flatMap encode ++ bytes) = .ok read ↔
      ∃ back, ofBytes bytes = .ok back ∧ read = ofBlocks blocks ++ back := by
  obtain ⟨others, rest, rfl, otherFits, stops⟩ := DescriptorBlock.exists_blocks bytes
  have allFit : ∀ b ∈ blocks ++ others, b.Fits := List.forall_mem_append.mpr ⟨fits, otherFits⟩
  rw [← List.append_assoc, ← List.flatMap_append]
  rcases stops with rfl | breaksOff
  · rw [List.append_nil, List.append_nil, ofBytes_blocks otherFits, ofBytes_blocks allFit,
      ofBlocks_append]
    simp only [Except.ok.injEq, exists_eq_left']
    exact eq_comm
  · obtain ⟨whole, hwhole⟩ := ofBytes_breaksOff allFit breaksOff
    obtain ⟨part, hpart⟩ := ofBytes_breaksOff otherFits breaksOff
    simp only [hwhole, hpart, reduceCtorEq, false_and, exists_false]

/-- A block between others and bytes that are read says what it says alone. -/
theorem ofBytes_between_iff (fits : ∀ b ∈ blocks, b.Fits) (hb : b.Fits) {bytes : Octets} :
    ofBytes (blocks.flatMap encode ++ b.encode ++ bytes) = .ok read ↔
      ∃ back, ofBytes bytes = .ok back ∧ read = ofBlocks blocks ++ ofBlock b ++ back := by
  have allFit : ∀ c ∈ blocks ++ [b], c.Fits :=
    List.forall_mem_append.mpr ⟨fits, List.forall_mem_singleton.mpr hb⟩
  have hbytes : blocks.flatMap encode ++ b.encode = (blocks ++ [b]).flatMap encode := by
    rw [List.flatMap_append, List.flatMap_singleton]
  rw [hbytes, ofBytes_blocks_append_iff allFit, ofBlocks_append, ofBlocks_singleton]

structure Spoiled (tag : UInt8) (payload malformed : Octets) (d : Descriptor) (e : DecodeError) :
    Prop where
  fits : DescriptorBlock.Fits ⟨tag, payload⟩
  read : Descriptor.ofPayload tag payload = .ok d
  malformedFits : DescriptorBlock.Fits ⟨tag, malformed⟩
  refused : Descriptor.ofPayload tag malformed = .error e

/-- Behind a framed loop bytes are refused if and only if they are refused alone, and otherwise the
loop and the bytes are read one after the other. A malformed payload in the place of another takes
away the descriptor and adds an error; what stands before it and behind it stays. In a loop that is
read each block gives a descriptor or an error. -/
theorem ofBytes_framed_append :
    (∀ front back : Octets, IsFramed front →
      ∃ first, ofBytes front = .ok first ∧
        ((∃ e, ofBytes (front ++ back) = .error e) ↔ ∃ e, ofBytes back = .error e) ∧
        ∀ second, ofBytes back = .ok second →
          ofBytes (front ++ back) = .ok ⟨first.descriptors ++ second.descriptors,
            first.dropped ++ second.dropped⟩) ∧
    (∀ front back tag payload malformed d e read,
      IsFramed front → Spoiled tag payload malformed d e →
      ofBytes (front ++ encode ⟨tag, payload⟩ ++ back) = .ok read →
      ∃ first second, ofBytes front = .ok first ∧ ofBytes back = .ok second ∧
        read = ⟨first.descriptors ++ d :: second.descriptors, first.dropped ++ second.dropped⟩ ∧
        ofBytes (front ++ encode ⟨tag, malformed⟩ ++ back) =
          .ok ⟨first.descriptors ++ second.descriptors,
            first.dropped ++ ⟨tag, e⟩ :: second.dropped⟩) ∧
    ∀ loop read, ofBytes loop = .ok read →
      read.descriptors.length + read.dropped.length = (walk loop).blocks.length := by
  refine ⟨?_, ?_, ?_⟩
  · intro front back framed
    obtain ⟨blocks, fits, rfl⟩ := exists_blocks_of_isFramed framed
    refine ⟨ofBlocks blocks, ofBytes_blocks fits, ?_, ?_⟩
    · rw [exists_error_iff, exists_error_iff]
      constructor
      · exact fun refused second hback =>
          refused _ ((ofBytes_blocks_append_iff fits).mpr ⟨second, hback, rfl⟩)
      · intro refused whole hwhole
        obtain ⟨second, hback, -⟩ := (ofBytes_blocks_append_iff fits).mp hwhole
        exact refused second hback
    · exact fun second hback => (ofBytes_blocks_append_iff fits).mpr ⟨second, hback, rfl⟩
  · intro front back tag payload malformed d e read framed spoiled hread
    obtain ⟨blocks, fits, rfl⟩ := exists_blocks_of_isFramed framed
    obtain ⟨second, hback, rfl⟩ := (ofBytes_between_iff fits spoiled.fits).mp hread
    have hspoiled := (ofBytes_between_iff fits spoiled.malformedFits).mpr ⟨second, hback, rfl⟩
    have hd : ofBlock ⟨tag, payload⟩ = ⟨[d], []⟩ := by
      simp only [ofBlock, spoiled.read]
    have he : ofBlock ⟨tag, malformed⟩ = ⟨[], [⟨tag, e⟩]⟩ := by
      simp only [ofBlock, spoiled.refused]
    rw [he] at hspoiled
    refine ⟨ofBlocks blocks, second, ofBytes_blocks fits, hback, ?_, ?_⟩
    · rw [hd]
      simp only [append_def, List.append_assoc, List.singleton_append, List.nil_append]
    · rw [hspoiled]
      simp only [append_def, List.append_assoc, List.singleton_append, List.nil_append]
  · intro loop read hread
    obtain ⟨blocks, fits, rfl, rfl⟩ := exists_blocks_of_ofBytes hread
    rw [DescriptorBlock.walk_flatMap_encode fits, length_ofBlocks]

/-- A number of four bytes, content codes of which one has no second byte, and a loop of both with a
descriptor of no known tag behind them. -/
theorem ofBytes_framed_append_content :
    let front : Octets := encode ⟨0x5F, [0, 0, 0x23, 0x3A]⟩
    let back : Octets := encode ⟨0x99, []⟩
    IsFramed front ∧ Spoiled 0x54 [0x10, 0x00] [0x10, 0x00, 0x20] (.content [⟨0x10, 0x00⟩])
        (.oddContentLength 3) ∧
      ∃ first second, ofBytes front = .ok first ∧ ofBytes back = .ok second ∧
        ofBytes (front ++ encode ⟨0x54, [0x10, 0x00, 0x20]⟩ ++ back) =
          .ok ⟨first.descriptors ++ second.descriptors,
            first.dropped ++ ⟨0x54, .oddContentLength 3⟩ :: second.dropped⟩ := by
  intro front back
  have framed : IsFramed front := @isFramed_blocks [⟨0x5F, [0, 0, 0x23, 0x3A]⟩] (by decide)
  have spoiled : Spoiled 0x54 [0x10, 0x00] [0x10, 0x00, 0x20] (.content [⟨0x10, 0x00⟩])
      (.oddContentLength 3) :=
    ⟨by decide, rfl, by decide, rfl⟩
  have hread : ofBytes (front ++ encode ⟨0x54, [0x10, 0x00]⟩ ++ back) =
      .ok ⟨[.privateDataSpecifier 9018, .content [⟨0x10, 0x00⟩], .other 0x99 []], []⟩ :=
    @ofBytes_blocks [⟨0x5F, [0, 0, 0x23, 0x3A]⟩, ⟨0x54, [0x10, 0x00]⟩, ⟨0x99, []⟩] (by decide)
  obtain ⟨first, second, hfirst, hsecond, -, hspoiled⟩ :=
    ofBytes_framed_append.2.1 front back _ _ _ _ _ _ framed spoiled hread
  exact ⟨framed, spoiled, first, second, hfirst, hsecond, hspoiled⟩

end DescriptorLoop

end BroadcastGuide
