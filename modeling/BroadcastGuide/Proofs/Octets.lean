import BroadcastGuide.Octets

/-! Numbers and the bytes that they are written in. -/

namespace BroadcastGuide.Octets

/-- What holds of the first 256 numbers as bytes holds of every byte. -/
theorem forall_byte {P : UInt8 → Prop} (h : ∀ n < 256, P (UInt8.ofNat n)) (b : UInt8) : P b := by
  have hb := h b.toNat b.toNat_lt
  rwa [UInt8.ofNat_toNat] at hb

theorem word_ofWord {n : Nat} (h : n < 65536) :
    word (UInt8.ofNat (n / 256)) (UInt8.ofNat n) = n := by
  simp only [word, UInt8.toNat_ofNat', Nat.reducePow]
  omega

theorem ofWord_word (high low : UInt8) : ofWord (word high low) = [high, low] := by
  have hlt := low.toNat_lt
  have hhigh : word high low / 256 = high.toNat := by
    unfold word
    omega
  have hlow : UInt8.ofNat (word high low) = low := by
    rw [UInt8.ofNat_eq_iff_mod_eq_toNat, word]
    omega
  rw [ofWord, hhigh, hlow, UInt8.ofNat_toNat]

theorem value_ofWord {n : Nat} (h : n < 65536) : value (ofWord n) = n := by
  have hword := word_ofWord h
  simpa [value, ofWord, word] using hword

theorem value_pair (high low : UInt8) : value [high, low] = word high low := by
  simp [value, word]

theorem value_quad (a b c d : UInt8) : value [a, b, c, d] = word a b * 65536 + word c d := by
  simp only [value, word, List.foldl_cons, List.foldl_nil]
  omega

theorem ofWord_value {bytes : Octets} (size : bytes.length = 2) : ofWord (value bytes) = bytes := by
  match bytes, size with
  | [high, low], _ => rw [value_pair, ofWord_word]

theorem value_lt_of_pair {bytes : Octets} (size : bytes.length = 2) : value bytes < 65536 := by
  match bytes, size with
  | [high, low], _ =>
    rw [value_pair]
    exact word_lt high low

theorem value_ofDoubleWord {n : Nat} (h : n < 4294967296) : value (ofDoubleWord n) = n := by
  simp only [value, ofDoubleWord, ofWord, List.cons_append, List.nil_append, List.foldl_cons,
    List.foldl_nil, UInt8.toNat_ofNat', Nat.reducePow]
  omega

/-- Only the last two bytes of a number go into a word. -/
theorem ofWord_mul_add (high low : Nat) : ofWord (high * 65536 + low) = ofWord low := by
  have h₁ : UInt8.ofNat ((high * 65536 + low) / 256) = UInt8.ofNat (low / 256) := by
    rw [UInt8.ofNat_eq_iff_mod_eq_toNat, UInt8.toNat_ofNat']
    omega
  have h₀ : UInt8.ofNat (high * 65536 + low) = UInt8.ofNat low := by
    rw [UInt8.ofNat_eq_iff_mod_eq_toNat, UInt8.toNat_ofNat']
    omega
  rw [ofWord, h₁, h₀, ofWord]

theorem ofDoubleWord_value {bytes : Octets} (size : bytes.length = 4) :
    ofDoubleWord (value bytes) = bytes := by
  match bytes, size with
  | [a, b, c, d], _ =>
    have hlt := word_lt c d
    have hhigh : (word a b * 65536 + word c d) / 65536 = word a b := by omega
    rw [value_quad, ofDoubleWord, hhigh, ofWord_mul_add, ofWord_word, ofWord_word]
    rfl

theorem value_lt_of_quad {bytes : Octets} (size : bytes.length = 4) :
    value bytes < 4294967296 := by
  match bytes, size with
  | [a, b, c, d], _ =>
    have hhigh := word_lt a b
    have hlow := word_lt c d
    rw [value_quad]
    omega

end BroadcastGuide.Octets
