import BroadcastGuide.DecodeError
import BroadcastGuide.EncodeError
import BroadcastGuide.Octets

/-!
Packets of a transport stream: 188 bytes, of which four are a header. An adaptation field may stand
between the header and the payload.
-/

namespace BroadcastGuide.Transport

def packetSize : Nat := 188

def syncByte : UInt8 := 0x47

/-- The stream number of event information. -/
def eventPid : Int := 0x12

structure Packet where
  pid : Nat
  payload : Octets
  hasError : Bool
  /-- A section starts in this packet, at the place that its first payload byte tells. -/
  startsUnit : Bool
  scrambling : Nat
  /-- Counts the packets with payload of one stream, modulo sixteen. -/
  counter : Nat
  hasAdaptation : Bool
  deriving DecidableEq, Repr

namespace Packet

def hasPayload (p : Packet) : Bool := !p.payload.isEmpty

/-- Where the payload starts, if the packet signals an adaptation field. -/
def payloadStart (hasAdaptation : Bool) (afterHeader : Octets) : Nat :=
  if hasAdaptation then 5 + (afterHeader.headD 0).toNat else 4

def ofBytes (bytes : Octets) : Except DecodeError Packet :=
  if bytes.length < packetSize then .error (.packetSize bytes.length)
  else
    match bytes with
    | sync :: b₁ :: b₂ :: b₃ :: afterHeader =>
      if sync ≠ syncByte then .error (.syncByte sync.toNat)
      else
        let control := b₃.toNat / 16 % 4
        let hasAdaptation := decide (2 ≤ control)
        let start := payloadStart hasAdaptation afterHeader
        if packetSize < start then .error (.adaptationOverrun start)
        else .ok
          { pid := b₁.toNat % 32 * 256 + b₂.toNat
            payload := if control % 2 = 1 then (bytes.take packetSize).drop start else []
            hasError := decide (0x80 ≤ b₁.toNat)
            startsUnit := decide (b₁.toNat / 64 % 2 = 1)
            scrambling := b₃.toNat / 64
            counter := b₃.toNat % 16
            hasAdaptation := hasAdaptation }
    | _ => .error (.packetSize bytes.length)

def summary (p : Packet) : String :=
  "Packet(pid=0x" ++ Numeral.hexUpper 4 p.pid ++ ", cc=" ++ toString p.counter ++ ", payload=" ++
    toString p.payload.length ++ "B" ++ (if p.startsUnit then ", PUSI" else "") ++
    (if p.hasAdaptation then ", AF" else "") ++ ")"

/-- A packet that holds nothing but payload, filled up with stuffing. -/
def build (pid : Int) (payload : Octets) (startsUnit : Bool) (counter : Int) :
    Except EncodeError Octets :=
  if packetSize - 4 < payload.length then .error (.payloadTooLarge payload.length)
  else
    let header : Octets :=
      [syncByte, UInt8.ofNat (startsUnit.toNat * 64 + (pid / 256 % 32).toNat),
        UInt8.ofNat (pid % 256).toNat, UInt8.ofNat (16 + (counter % 16).toNat)]
    .ok (header ++ payload ++ List.replicate (packetSize - 4 - payload.length) 0xFF)

end Packet

end BroadcastGuide.Transport
