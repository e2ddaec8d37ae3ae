import BroadcastGuide.Checksum

/-! A block followed by its own checksum verifies: each byte of the checksum is the one at the top
of the register, and shifts it out without a trace. -/

namespace BroadcastGuide.Checksum

/-- Feeding the byte at the top of the register shifts it out. -/
theorem feedByte_top {register : UInt32} {b : UInt8} (h : b.toNat = register.toNat / 0x1000000) :
    (feedByte register b).toNat = register.toNat * 256 % 0x100000000 := by
  have htop : (register >>> 24).toUInt8 = b := by
    apply UInt8.toNat.inj
    have hlt := register.toNat_lt
    simp only [UInt32.toNat_toUInt8, UInt32.toNat_shiftRight, Nat.shiftRight_eq_div_pow, h,
      UInt32.reduceToNat, Nat.reduceMod, Nat.reducePow]
    omega
  have hentry : table.getD (b ^^^ b).toNat 0 = 0 := by
    rw [table_getD, UInt8.xor_self]
    decide
  rw [feedByte, htop, hentry, UInt32.xor_zero]
  simp [UInt32.toNat_shiftLeft, Nat.shiftLeft_eq]

theorem foldl_trailer (register : UInt32) : (trailer register).foldl feedByte register = 0 := by
  have hlt := register.toNat_lt
  have h₁ : (feedByte register _).toNat = _ :=
    feedByte_top (b := UInt8.ofNat (register.toNat / 65536 / 256))
      (by rw [UInt8.toNat_ofNat']; omega)
  have h₂ : (feedByte (feedByte register _) _).toNat = _ :=
    feedByte_top (b := UInt8.ofNat (register.toNat / 65536)) (by rw [h₁, UInt8.toNat_ofNat']; omega)
  have h₃ : (feedByte (feedByte (feedByte register _) _) _).toNat = _ :=
    feedByte_top (b := UInt8.ofNat (register.toNat / 256))
      (by rw [h₂, h₁, UInt8.toNat_ofNat']; omega)
  have h₄ : (feedByte (feedByte (feedByte (feedByte register _) _) _) _).toNat = _ :=
    feedByte_top (b := UInt8.ofNat register.toNat)
      (by rw [h₃, h₂, h₁, UInt8.toNat_ofNat']; omega)
  apply UInt32.toNat.inj
  apply h₄.trans
  rw [h₃, h₂, h₁, UInt32.toNat_zero]
  omega

/-- A block verifies with its checksum appended. -/
theorem check_append (data : Octets) : check (append data) = true := by
  have hlen : 4 ≤ (append data).length := by
    rw [append, List.length_append, trailer, Octets.length_ofDoubleWord]
    omega
  have hzero : calculate (append data) = 0 := by
    rw [append, calculate_append, foldl_trailer]
  simp [check, hlen, hzero]

end BroadcastGuide.Checksum
