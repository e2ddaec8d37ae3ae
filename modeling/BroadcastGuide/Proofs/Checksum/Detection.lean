import BroadcastGuide.Proofs.Checksum
import BroadcastGuide.Proofs.Checksum.Serial
import BroadcastGuide.Section.Frame

/-! Errors that the checksum finds. What up to thirty-two bits do to a register tells which bits
they are: a block that verifies ends in its checksum, and no block verifies that differs from it
within thirty-two bits in a row. -/

namespace BroadcastGuide.Checksum

theorem getLsbD_zero_feedBit (r : UInt32) (x : Bool) :
    (feedBit r x).toBitVec.getLsbD 0 = (top r ^^ x) := by
  rw [feedBit_eq]
  cases top r ^^ x <;> simp [share, polynomial]

theorem getLsbD_succ_feedBit (r : UInt32) (x : Bool) {i : Nat} (h : i + 1 < 32) :
    (feedBit r x).toBitVec.getLsbD (i + 1) =
      (r.toBitVec.getLsbD i ^^ (share (top r ^^ x)).toBitVec.getLsbD (i + 1)) := by
  have hi : i < 32 := by omega
  rw [feedBit_eq]
  simp [h, hi]

/-- Registers that bits make equal agree in the bits which these have not moved out. -/
theorem getLsbD_eq_of_foldl {r s : UInt32} {xs ys : List Bool} (same_length : xs.length = ys.length)
    (h : xs.foldl feedBit r = ys.foldl feedBit s) {i : Nat} (low : xs.length + i < 32) :
    r.toBitVec.getLsbD i = s.toBitVec.getLsbD i := by
  induction xs generalizing r s ys i with
  | nil =>
    cases List.length_eq_zero_iff.mp same_length.symm
    rw [show r = s from h]
  | cons x xs ih =>
    cases ys with
    | nil => cases same_length
    | cons y ys =>
      have hrest := Nat.succ.inj same_length
      rw [List.length_cons] at low
      -- the lowest bit tells whether the polynomial was added, since that is odd
      have hcarried : (top r ^^ x) = (top s ^^ y) := by
        rw [← getLsbD_zero_feedBit, ← getLsbD_zero_feedBit]
        exact ih hrest h (by omega)
      have hnext : (feedBit r x).toBitVec.getLsbD (i + 1) =
          (feedBit s y).toBitVec.getLsbD (i + 1) := ih hrest h (by omega)
      rw [getLsbD_succ_feedBit r x (by omega), getLsbD_succ_feedBit s y (by omega),
        hcarried] at hnext
      exact Bool.xor_left_inj.mp hnext

theorem eq_of_feedBit {r s : UInt32} {x : Bool} (h : feedBit r x = feedBit s x) : r = s := by
  apply UInt32.toBitVec_inj.mp
  apply BitVec.eq_of_getLsbD_eq
  intro i hi
  by_cases low : i < 31
  · have hfold : [x].foldl feedBit r = [x].foldl feedBit s := h
    apply getLsbD_eq_of_foldl rfl hfold
    rw [List.length_singleton]
    omega
  · have hcarried : (top r ^^ x) = (top s ^^ x) := by
      rw [← getLsbD_zero_feedBit, ← getLsbD_zero_feedBit, h]
    have htop : top r = top s := Bool.xor_left_inj.mp hcarried
    have hlast : i = 31 := by omega
    rw [top_eq_msb, top_eq_msb, BitVec.msb_eq_getLsbD_last, BitVec.msb_eq_getLsbD_last] at htop
    rw [hlast]
    exact htop

/-- Bits leave different registers different. -/
theorem eq_of_foldl_feedBit {r s : UInt32} {word : List Bool}
    (h : word.foldl feedBit r = word.foldl feedBit s) : r = s := by
  induction word generalizing r s with
  | nil => exact h
  | cons x rest ih => exact eq_of_feedBit (ih h)

/-- Up to thirty-two bits that do the same to a register are the same. -/
theorem word_eq_of_foldl {r : UInt32} {xs ys : List Bool} (same_length : xs.length = ys.length)
    (short : xs.length ≤ 32) (h : xs.foldl feedBit r = ys.foldl feedBit r) : xs = ys := by
  induction xs generalizing r ys with
  | nil => exact (List.length_eq_zero_iff.mp same_length.symm).symm
  | cons x xs ih =>
    cases ys with
    | nil => cases same_length
    | cons y ys =>
      have hrest := Nat.succ.inj same_length
      rw [List.length_cons] at short
      have hlowest := getLsbD_eq_of_foldl (i := 0) hrest h (by omega)
      rw [getLsbD_zero_feedBit, getLsbD_zero_feedBit] at hlowest
      have hxy : x = y := Bool.xor_right_inj.mp hlowest
      subst hxy
      rw [ih hrest (by omega) h]

/-! ### Bits of bytes -/

theorem bits_inj {a b : UInt8} (h : bits a = bits b) : a = b := by
  have hvalue (c : UInt8) : UInt8.ofNat ((bits c).foldl (fun n x => 2 * n + x.toNat) 0) = c :=
    Octets.forall_byte (P := fun c =>
      UInt8.ofNat ((bits c).foldl (fun n x => 2 * n + x.toNat) 0) = c) (by decide +kernel) c
  rw [← hvalue a, h, hvalue]

theorem length_bitString (data : Octets) : (bitString data).length = 8 * data.length := by
  induction data with
  | nil => rfl
  | cons b rest ih =>
    rw [bitString] at ih ⊢
    rw [List.flatMap_cons, List.length_append, ih, List.length_cons]
    simp only [bits, List.length_map, List.length_cons, List.length_nil]
    omega

theorem bitString_inj {a b : Octets} (same_length : a.length = b.length)
    (h : bitString a = bitString b) : a = b := by
  induction a generalizing b with
  | nil => exact (List.length_eq_zero_iff.mp same_length.symm).symm
  | cons x rest ih =>
    cases b with
    | nil => cases same_length
    | cons y others =>
      have happend : bits x ++ bitString rest = bits y ++ bitString others := h
      obtain ⟨hbits, hrest⟩ := List.append_inj happend rfl
      rw [bits_inj hbits, ih (Nat.succ.inj same_length) hrest]

/-! ### Bursts -/

theorem check_eq_true_iff {block : Octets} :
    check block = true ↔ 4 ≤ block.length ∧ (bitString block).foldl feedBit start = 0 := by
  rw [check, Bool.and_eq_true, decide_eq_true_iff, beq_iff_eq, calculate, foldl_feedByte]

/-- Bits that do the same to a register and differ only within thirty-two in a row are the same. -/
theorem eq_of_burst {r : UInt32} {xs ys : List Bool} {first : Nat}
    (same_length : xs.length = ys.length)
    (burst : ∀ i, xs[i]? ≠ ys[i]? → first ≤ i ∧ i < first + 32)
    (h : xs.foldl feedBit r = ys.foldl feedBit r) : xs = ys := by
  have houtside {i : Nat} (hi : i < first ∨ first + 32 ≤ i) : xs[i]? = ys[i]? := by
    apply Decidable.byContradiction
    intro hne
    have hrange := burst i hne
    omega
  have hbefore : xs.take first = ys.take first := by
    apply List.ext_getElem?
    intro i
    rw [List.getElem?_take, List.getElem?_take]
    split
    · exact houtside (.inl ‹_›)
    · rfl
  have hafter : (xs.drop first).drop 32 = (ys.drop first).drop 32 := by
    apply List.ext_getElem?
    intro i
    rw [List.drop_drop, List.drop_drop, List.getElem?_drop, List.getElem?_drop]
    exact houtside (.inr (by omega))
  have hsplit (zs : List Bool) :
      zs = zs.take first ++ ((zs.drop first).take 32 ++ (zs.drop first).drop 32) := by
    rw [List.take_append_drop, List.take_append_drop]
  rw [hsplit xs, hsplit ys, hbefore, hafter, List.foldl_append, List.foldl_append,
    List.foldl_append, List.foldl_append] at h
  have hwithin : (xs.drop first).take 32 = (ys.drop first).take 32 := by
    apply word_eq_of_foldl _ _ (eq_of_foldl_feedBit h)
    · simp [same_length]
    · rw [List.length_take]
      omega
  rw [hsplit xs, hsplit ys, hbefore, hwithin, hafter]

/-- No block verifies that differs from one that does in at least one bit, and only in bits that lie
within thirty-two in a row. -/
theorem check_eq_false_of_burst {block other : Octets} {first : Nat} (intact : check block = true)
    (same_length : other.length = block.length) (changed : other ≠ block)
    (burst : ∀ i, (bitString other)[i]? ≠ (bitString block)[i]? → first ≤ i ∧ i < first + 32) :
    check other = false := by
  rw [← Bool.not_eq_true]
  intro verifies
  have hbits : (bitString other).length = (bitString block).length := by
    rw [length_bitString, length_bitString, same_length]
  have hzero := (check_eq_true_iff.mp verifies).2.trans (check_eq_true_iff.mp intact).2.symm
  exact changed (bitString_inj same_length (eq_of_burst hbits burst hzero))

def shortBlock : Octets := [0x4E, 0xF0, 0x0F, 0x00, 0x2E, 0x77, 0xB6]

/-- The same with the sixth bit changed, the thirty-seventh, and some between them. -/
def burstBlock : Octets := [0x4A, 0x40, 0x0F, 0x00, 0x26, 0x77, 0xB6]

theorem check_burstBlock :
    check shortBlock = true ∧ burstBlock.length = shortBlock.length ∧ burstBlock ≠ shortBlock ∧
      (∀ i, (bitString burstBlock)[i]? ≠ (bitString shortBlock)[i]? → 5 ≤ i ∧ i < 5 + 32) ∧
      check burstBlock = false := by
  have intact : check shortBlock = true := check_eq_true_iff.mpr (by decide +kernel)
  have burst : ∀ i, (bitString burstBlock)[i]? ≠ (bitString shortBlock)[i]? →
      5 ≤ i ∧ i < 5 + 32 := by
    intro i hne
    have hnone (block : Octets) (h : block.length = 7) (hi : 56 ≤ i) :
        (bitString block)[i]? = none := by
      rw [List.getElem?_eq_none_iff, length_bitString, h]
      exact hi
    by_cases hi : i < 56
    · have hwithin : ∀ i < 56, (bitString burstBlock)[i]? ≠ (bitString shortBlock)[i]? →
          5 ≤ i ∧ i < 5 + 32 := by decide
      exact hwithin i hi hne
    · rw [hnone burstBlock rfl (by omega), hnone shortBlock rfl (by omega)] at hne
      exact absurd rfl hne
  exact ⟨intact, rfl, by decide, burst, check_eq_false_of_burst intact rfl (by decide) burst⟩

/-! ### Checksums -/

theorem eq_trailer_of_check {data last : Octets} (four : last.length = 4)
    (h : check (data ++ last) = true) : last = trailer (calculate data) := by
  have hlast : (bitString last).foldl feedBit (calculate data) = 0 := by
    have hzero := (check_eq_true_iff.mp h).2
    rwa [← foldl_feedByte, ← calculate, calculate_append, foldl_feedByte] at hzero
  have htrailer : (bitString (trailer (calculate data))).foldl feedBit (calculate data) = 0 := by
    rw [← foldl_feedByte, foldl_trailer]
  have hbits : bitString last = bitString (trailer (calculate data)) := by
    apply word_eq_of_foldl _ _ (hlast.trans htrailer.symm)
    · have htrailing : (trailer (calculate data)).length = 4 := rfl
      rw [length_bitString, length_bitString, four, htrailing]
    · apply Nat.le_of_eq
      rw [length_bitString, four]
  exact bitString_inj four hbits

theorem value_eq_iff {last : Octets} (four : last.length = 4) (register : UInt32) :
    Octets.value last = register.toNat ↔ last = trailer register := by
  constructor
  · intro h
    rw [trailer, ← h, Octets.ofDoubleWord_value four]
  · rintro rfl
    exact Octets.value_ofDoubleWord register.toNat_lt

theorem check_append_iff {data last : Octets} (four : last.length = 4) :
    check (data ++ last) = true ↔ last = trailer (calculate data) := by
  constructor
  · exact eq_trailer_of_check four
  · rintro rfl
    exact check_append data

theorem isIntact_iff (s : RawSection) :
    s.isIntact = true ↔
      s.checksum = (calculate (s.bytes.take (s.bytes.length - 4))).toNat := by
  have hlen := s.length_bytes
  have hroom := s.four_le
  have four : (s.bytes.drop (s.bytes.length - 4)).length = 4 := by
    rw [List.length_drop]
    omega
  rw [RawSection.checksum, value_eq_iff four, ← check_append_iff four, List.take_append_drop]
  rfl

/-- A block verifies with its checksum appended, with the high byte first, and with no other four
bytes. So a section is intact exactly if its last four bytes are the checksum of those before. -/
theorem check_iff_checksum (data : Octets) :
    check (append data) = true ∧
      (∀ last : Octets, last.length = 4 →
        (check (data ++ last) = true ↔ Octets.value last = (calculate data).toNat) ∧
        (check (data ++ last) = true ↔ data ++ last = append data)) ∧
      ∀ s : RawSection, s.isIntact = true ↔
        s.checksum = (calculate (s.bytes.take (s.bytes.length - 4))).toNat := by
  refine ⟨check_append data, fun last four => ⟨?_, ?_⟩, isIntact_iff⟩
  · rw [value_eq_iff four, check_append_iff four]
  · rw [append, List.append_cancel_left_eq, check_append_iff four]

/-- Only one of two values for the last byte verifies. -/
theorem check_lastByte :
    ([0x00, 0x2E, 0x77, 0xB6] : Octets).length = 4 ∧
      ([0x00, 0x2E, 0x77, 0xB7] : Octets).length = 4 ∧
      check ([0x4E, 0xF0, 0x0F] ++ [0x00, 0x2E, 0x77, 0xB6]) = true ∧
      ¬ check ([0x4E, 0xF0, 0x0F] ++ [0x00, 0x2E, 0x77, 0xB7]) = true := by
  have hvalue : (calculate [0x4E, 0xF0, 0x0F]).toNat = 0x002E77B6 := by
    rw [calculate, foldl_feedByte]
    decide +kernel
  obtain ⟨-, hlast, -⟩ := check_iff_checksum [0x4E, 0xF0, 0x0F]
  refine ⟨rfl, rfl, ?_, ?_⟩
  · rw [(hlast _ rfl).1, hvalue]
    decide
  · rw [(hlast _ rfl).1, hvalue]
    decide

end BroadcastGuide.Checksum
