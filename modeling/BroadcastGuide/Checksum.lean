import BroadcastGuide.Octets

/-!
The checksum of sections: a cyclic redundancy check of thirty-two bits, fed with the most
significant bit of each byte first. The register starts with all bits set and is not inverted at
the end, so a block that is followed by its own checksum leaves the register at zero.
-/

namespace BroadcastGuide.Checksum

def polynomial : UInt32 := 0x04C11DB7

def start : UInt32 := 0xFFFFFFFF

/-- Shifts the register left; where the bit shifted out is set, the polynomial is added. -/
def shiftOut (register : UInt32) : UInt32 :=
  if 0x80000000 ≤ register then (register <<< 1) ^^^ polynomial else register <<< 1

/-- The register after eight shifts, when it starts with one byte at its top. -/
def entry (top : UInt8) : UInt32 := Nat.repeat shiftOut 8 (top.toUInt32 <<< 24)

def table : Array UInt32 := Array.ofFn fun i : Fin 256 => entry (UInt8.ofNat i)

def feedByte (register : UInt32) (b : UInt8) : UInt32 :=
  (register <<< 8) ^^^ table.getD ((register >>> 24).toUInt8 ^^^ b).toNat 0

def calculate (data : Octets) : UInt32 := data.foldl feedByte start

/-- The four bytes of a register value, high byte first. -/
def trailer (register : UInt32) : Octets := Octets.ofDoubleWord register.toNat

/-- A block verifies if it has room for a checksum and leaves the register at zero. -/
def check (block : Octets) : Bool := 4 ≤ block.length && calculate block == 0

/-- A block followed by its checksum. -/
def append (data : Octets) : Octets := data ++ trailer (calculate data)

/-- Feeds one bit: the polynomial is added where the bit differs from the bit shifted out. -/
def feedBit (register : UInt32) (bit : Bool) : UInt32 :=
  if decide (0x80000000 ≤ register) != bit then (register <<< 1) ^^^ polynomial
  else register <<< 1

/-- The bits of a byte, the most significant first. -/
def bits (b : UInt8) : List Bool := [7, 6, 5, 4, 3, 2, 1, 0].map b.toNat.testBit

/-- The checksum by its definition, one bit at a time. -/
def bitSerial (data : Octets) : UInt32 := (data.flatMap bits).foldl feedBit start

theorem calculate_append (a b : Octets) :
    calculate (a ++ b) = b.foldl feedByte (calculate a) := by
  simp [calculate]

theorem table_getD (b : UInt8) : table.getD b.toNat 0 = entry b := by
  have h : b.toNat < 256 := b.toNat_lt
  simp [table, h]

end BroadcastGuide.Checksum
