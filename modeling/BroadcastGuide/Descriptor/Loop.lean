import BroadcastGuide.Descriptor.Payload

/-!
Descriptor loops: records of a tag, a size and as many bytes. A malformed payload costs its
descriptor only, a size that runs past the loop costs all that follows.
-/

namespace BroadcastGuide

structure DescriptorBlock where
  tag : UInt8
  payload : Octets
  deriving DecidableEq, Repr

namespace DescriptorBlock

def encode (b : DescriptorBlock) : Octets := b.tag :: UInt8.ofNat b.payload.length :: b.payload

/-- Blocks in order, and the fault that ended the walk, if one did. -/
structure Walk where
  blocks : List DescriptorBlock
  fault : Option DecodeError
  deriving DecidableEq, Repr

def walkFrom (offset size : Nat) : Octets → Walk
  | [] => ⟨[], none⟩
  | [_] => ⟨[], some (.descriptorHeaderOverrun offset size)⟩
  | tag :: length :: rest =>
    if rest.length < length.toNat then
      ⟨[], some (.descriptorOverrun tag.toNat length.toNat offset size)⟩
    else
      let tail := walkFrom (offset + 2 + length.toNat) size (rest.drop length.toNat)
      { tail with blocks := ⟨tag, rest.take length.toNat⟩ :: tail.blocks }
termination_by bytes => bytes.length
decreasing_by
  simp only [List.length_drop, List.length_cons]
  omega

def walk (loop : Octets) : Walk := walkFrom 0 loop.length loop

end DescriptorBlock

structure DroppedDescriptor where
  tag : UInt8
  error : DecodeError
  deriving DecidableEq, Repr

/-- The descriptors of a loop, and what was left out of it. -/
structure DescriptorLoop where
  descriptors : List Descriptor
  dropped : List DroppedDescriptor
  deriving DecidableEq, Repr

namespace DescriptorLoop

def ofBlocks : List DescriptorBlock → DescriptorLoop
  | [] => ⟨[], []⟩
  | b :: rest =>
    let tail := ofBlocks rest
    match Descriptor.ofPayload b.tag b.payload with
    | .ok d => { tail with descriptors := d :: tail.descriptors }
    | .error e => { tail with dropped := ⟨b.tag, e⟩ :: tail.dropped }

/-- Reads a loop. A loop whose framing is broken has no reading. -/
def ofBytes (loop : Octets) : Except DecodeError DescriptorLoop :=
  let walk := DescriptorBlock.walk loop
  match walk.fault with
  | some e => .error e
  | none => .ok (ofBlocks walk.blocks)

end DescriptorLoop

end BroadcastGuide
