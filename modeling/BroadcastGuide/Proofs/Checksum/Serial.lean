import BroadcastGuide.Checksum
import BroadcastGuide.Proofs.Octets

/-! The checksum one bit at a time. A byte fed through the table does to the register what its eight
bits do. -/

namespace BroadcastGuide.Checksum

def bitString (data : Octets) : List Bool := data.flatMap bits

/-- The bit that the next shift moves out. -/
def top (register : UInt32) : Bool := decide (0x80000000 ≤ register)

def share (carried : Bool) : UInt32 := if carried then polynomial else 0

theorem feedBit_eq (r : UInt32) (x : Bool) : feedBit r x = (r <<< 1) ^^^ share (top r ^^ x) := by
  by_cases h : 0x80000000 ≤ r <;> cases x <;> simp [feedBit, share, top, h]

theorem feedBit_false (r : UInt32) : feedBit r false = shiftOut r := by
  simp [feedBit, shiftOut]

theorem top_eq_msb (r : UInt32) : top r = r.toBitVec.msb := by
  rw [BitVec.msb_eq_decide]
  rfl

theorem top_xor (a b : UInt32) : top (a ^^^ b) = (top a ^^ top b) := by
  simp only [top_eq_msb, UInt32.toBitVec_xor, BitVec.msb_xor]

theorem share_xor (x y : Bool) : share (x ^^ y) = share x ^^^ share y := by
  cases x <;> cases y <;> decide

/-! ### Bytes -/

/-- Sums are fed to sums. -/
theorem feedBit_xor (a b : UInt32) (x y : Bool) :
    feedBit (a ^^^ b) (x ^^ y) = feedBit a x ^^^ feedBit b y := by
  have hcarried : (top (a ^^^ b) ^^ (x ^^ y)) = ((top a ^^ x) ^^ (top b ^^ y)) := by
    simp only [top_xor, Bool.xor_assoc, Bool.xor_left_comm]
  rw [feedBit_eq, feedBit_eq, feedBit_eq, hcarried, share_xor, UInt32.shiftLeft_xor]
  ac_rfl

/-- One part of a register is shifted, while the bits are fed to the other. -/
theorem foldl_feedBit_xor (a b : UInt32) (word : List Bool) :
    word.foldl feedBit (a ^^^ b) =
      (word.map fun _ => false).foldl feedBit a ^^^ word.foldl feedBit b := by
  induction word generalizing a b with
  | nil => rfl
  | cons x rest ih =>
    have hfeed : feedBit (a ^^^ b) x = feedBit a false ^^^ feedBit b x := by
      rw [← feedBit_xor, Bool.false_xor]
    rw [List.foldl_cons, hfeed, ih, List.map_cons, List.foldl_cons, List.foldl_cons]

theorem foldl_zeros (r : UInt32) (b : UInt8) :
    ((bits b).map fun _ => false).foldl feedBit r = Nat.repeat shiftOut 8 r := by
  simp only [bits, List.map_cons, List.map_nil, List.foldl_cons, List.foldl_nil, feedBit_false,
    Nat.repeat]

theorem repeat_shiftOut_xor (a b : UInt32) :
    Nat.repeat shiftOut 8 (a ^^^ b) = Nat.repeat shiftOut 8 a ^^^ Nat.repeat shiftOut 8 b := by
  rw [← foldl_zeros _ 0, foldl_feedBit_xor, ← foldl_zeros _ 0, ← foldl_zeros _ 0]
  rfl

/-- A register loses nothing while its highest bits are clear. -/
theorem toNat_repeat_shiftOut {r : UInt32} {n : Nat} (h : r.toNat <<< n < 0x100000000) :
    (Nat.repeat shiftOut n r).toNat = r.toNat <<< n := by
  induction n with
  | zero => rfl
  | succ n ih =>
    rw [Nat.shiftLeft_succ] at h ⊢
    have hn := ih (by omega)
    have hlow : ¬ 0x80000000 ≤ Nat.repeat shiftOut n r := by
      rw [UInt32.le_iff_toNat_le, hn]
      simp
      omega
    rw [Nat.repeat, shiftOut, if_neg hlow, UInt32.toNat_shiftLeft, hn]
    simp [Nat.shiftLeft_eq]
    omega

theorem entry_xor (a b : UInt8) : entry (a ^^^ b) = entry a ^^^ entry b := by
  rw [entry, entry, entry, ← repeat_shiftOut_xor, ← UInt32.shiftLeft_xor, UInt8.toUInt32_xor]

/-- A register is its byte at the top and the bits below it. -/
theorem split_register (r : UInt32) :
    r = ((r <<< 8) >>> 8) ^^^ ((r >>> 24).toUInt8.toUInt32 <<< 24) := by
  have htop : (r >>> 24).toUInt8.toUInt32 = r >>> 24 := by
    have hlt := r.toNat_lt
    apply UInt32.toNat.inj
    simp [UInt32.toNat_shiftRight, Nat.shiftRight_eq_div_pow]
    omega
  rw [htop]
  apply UInt32.toBitVec_inj.mp
  apply BitVec.eq_of_getLsbD_eq
  intro i hi
  by_cases low : i < 24
  · have hroom : 8 + i < 32 := by omega
    simp [hi, low, hroom]
  · have hfull : ¬ 8 + i < 32 := by omega
    have hback : 24 + (i - 24) = i := by omega
    simp [hi, low, hfull, hback]

theorem repeat_shiftOut_eq (r : UInt32) :
    Nat.repeat shiftOut 8 r = (r <<< 8) ^^^ entry (r >>> 24).toUInt8 := by
  have hlow : ((r <<< 8) >>> 8).toNat = r.toNat % 0x1000000 := by
    simp [UInt32.toNat_shiftLeft, UInt32.toNat_shiftRight, Nat.shiftLeft_eq,
      Nat.shiftRight_eq_div_pow]
    omega
  have hshift : Nat.repeat shiftOut 8 ((r <<< 8) >>> 8) = r <<< 8 := by
    apply UInt32.toNat.inj
    rw [toNat_repeat_shiftOut] <;> rw [hlow]
    · simp [Nat.shiftLeft_eq]
      omega
    · simp [Nat.shiftLeft_eq]
      omega
  calc Nat.repeat shiftOut 8 r
    _ = Nat.repeat shiftOut 8 (((r <<< 8) >>> 8) ^^^ ((r >>> 24).toUInt8.toUInt32 <<< 24)) := by
      rw [← split_register]
    _ = (r <<< 8) ^^^ entry (r >>> 24).toUInt8 := by
      rw [repeat_shiftOut_xor, hshift, entry]

theorem foldl_bits_zero (b : UInt8) : (bits b).foldl feedBit 0 = entry b :=
  Octets.forall_byte (P := fun b => (bits b).foldl feedBit 0 = entry b) (by decide +kernel) b

/-- A byte fed through the table is fed bit by bit. -/
theorem feedByte_eq_foldl (r : UInt32) (b : UInt8) : feedByte r b = (bits b).foldl feedBit r := by
  have hsplit : (bits b).foldl feedBit r = Nat.repeat shiftOut 8 r ^^^ entry b := by
    rw [← foldl_bits_zero, ← foldl_zeros r b, ← foldl_feedBit_xor, UInt32.xor_zero]
  rw [hsplit, repeat_shiftOut_eq, feedByte, table_getD, entry_xor, UInt32.xor_assoc]

theorem foldl_feedByte (r : UInt32) (data : Octets) :
    data.foldl feedByte r = (bitString data).foldl feedBit r := by
  induction data generalizing r with
  | nil => rfl
  | cons b rest ih =>
    rw [List.foldl_cons, ih, bitString, bitString, List.flatMap_cons, List.foldl_append,
      feedByte_eq_foldl]

/-- The checksum that is computed through the table is that of its definition, which takes the bits
of the data in one by one. -/
theorem calculate_eq_bitSerial (data : Octets) : calculate data = bitSerial data := by
  rw [calculate, foldl_feedByte, bitString, bitSerial]

/-- The known value of the digits from 1 to 9. -/
example : bitSerial [0x31, 0x32, 0x33, 0x34, 0x35, 0x36, 0x37, 0x38, 0x39] = 0x0376E6E7 := by
  decide +kernel

end BroadcastGuide.Checksum
