import BroadcastGuide.Proofs.Octets
import BroadcastGuide.Proofs.Text.Normalized
import BroadcastGuide.Text.Normalizer

/-! Text in UTF-8 and in big-endian UTF-16. What is written in either form is read back, so that a
field gives the same text in both. -/

namespace BroadcastGuide.Text

/-- The surrogates are no characters. -/
theorem toNat_bounds (c : Char) : c.toNat < 0xD800 ∨ 0xDFFF < c.toNat ∧ c.toNat < 0x110000 :=
  c.valid

/-! ### UTF-8 -/

namespace Utf8

def encode (s : List Char) : Octets := s.flatMap String.utf8EncodeChar

theorem toNat_trailing (n : Nat) : (UInt8.ofNat (n % 64 + 128)).toNat = n % 64 + 128 := by
  rw [UInt8.toNat_ofNat']
  omega

section Trailing

variable {low high : Nat} {n : Nat} (hlow : low ≤ n % 64 + 128) (hhigh : n % 64 + 128 ≤ high)
  (value : Nat) (rest : Octets)

include hlow hhigh

theorem decodeFrom_trailing (more : Nat) :
    decodeFrom (some ⟨more + 1, low, high, value⟩) (UInt8.ofNat (n % 64 + 128) :: rest) =
      decodeFrom (some ⟨more, 0x80, 0xBF, value * 64 + n % 64⟩) rest := by
  simp only [decodeFrom, step, toNat_trailing, hlow, hhigh, and_self, if_true, List.nil_append,
    Nat.add_sub_cancel]

theorem decodeFrom_last :
    decodeFrom (some ⟨0, low, high, value⟩) (UInt8.ofNat (n % 64 + 128) :: rest) =
      Char.ofNat (value * 64 + n % 64) :: decodeFrom none rest := by
  simp only [decodeFrom, step, toNat_trailing, hlow, hhigh, and_self, if_true,
    Nat.add_sub_cancel, List.cons_append, List.nil_append]

end Trailing

theorem decodeFrom_begins {b : UInt8} {state : Begun} (h : lead b = .begins state) (rest : Octets) :
    decodeFrom none (b :: rest) = decodeFrom (some state) rest := by
  simp only [decodeFrom, step, startByte, h, List.nil_append]

theorem lead_whole {v : Nat} (h : v < 0x80) : lead (UInt8.ofNat v) = .whole (Char.ofNat v) := by
  have hb : (UInt8.ofNat v).toNat = v := by
    rw [UInt8.toNat_ofNat']
    omega
  rw [lead, hb]
  exact if_pos h

theorem lead_pair {v : Nat} (hlow : 0x80 ≤ v) (hhigh : v < 0x800) :
    lead (UInt8.ofNat (v / 64 % 32 + 192)) = .begins ⟨0, 0x80, 0xBF, v / 64⟩ := by
  have hb : (UInt8.ofNat (v / 64 % 32 + 192)).toNat = v / 64 + 192 := by
    rw [UInt8.toNat_ofNat']
    omega
  unfold lead
  simp only [hb]
  rw [if_neg (by omega), if_neg (by omega), if_pos (by omega), Nat.add_sub_cancel]

/-- The first of three bytes keeps the second one out of the overlong forms and of the surrogates,
and the second byte of a character lies where it must. -/
theorem lead_triple {v : Nat} (hlow : 0x800 ≤ v) (hhigh : v < 0x10000)
    (plain : v < 0xD800 ∨ 0xDFFF < v) : ∃ low high,
      lead (UInt8.ofNat (v / 4096 % 16 + 224)) = .begins ⟨1, low, high, v / 4096⟩ ∧
        low ≤ v / 64 % 64 + 128 ∧ v / 64 % 64 + 128 ≤ high := by
  have hb : (UInt8.ofNat (v / 4096 % 16 + 224)).toNat = v / 4096 + 224 := by
    rw [UInt8.toNat_ofNat']
    omega
  unfold lead
  simp only [hb]
  rw [if_neg (by omega), if_neg (by omega), if_neg (by omega)]
  by_cases first : v / 4096 = 0
  · exact ⟨0xA0, 0xBF, by rw [if_pos (by omega), first], by omega, by omega⟩
  · rw [if_neg (by omega)]
    by_cases surrogates : v / 4096 = 0xD
    · exact ⟨0x80, 0x9F, by rw [if_pos (by omega), surrogates], by omega, by omega⟩
    · refine ⟨0x80, 0xBF, ?_, by omega, by omega⟩
      rw [if_neg (by omega), if_pos (by omega), Nat.add_sub_cancel]

/-- The first of four bytes keeps the second one out of the overlong forms and of what lies past the
last character. -/
theorem lead_quad {v : Nat} (hlow : 0x10000 ≤ v) (hhigh : v < 0x110000) : ∃ low high,
    lead (UInt8.ofNat (v / 262144 % 8 + 240)) = .begins ⟨2, low, high, v / 262144⟩ ∧
      low ≤ v / 4096 % 64 + 128 ∧ v / 4096 % 64 + 128 ≤ high := by
  have hb : (UInt8.ofNat (v / 262144 % 8 + 240)).toNat = v / 262144 + 240 := by
    rw [UInt8.toNat_ofNat']
    omega
  unfold lead
  simp only [hb]
  rw [if_neg (by omega), if_neg (by omega), if_neg (by omega), if_neg (by omega),
    if_neg (by omega), if_neg (by omega)]
  by_cases first : v / 262144 = 0
  · exact ⟨0x90, 0xBF, by rw [if_pos (by omega), first], by omega, by omega⟩
  · rw [if_neg (by omega)]
    by_cases last : v / 262144 = 4
    · exact ⟨0x80, 0x8F, by rw [if_neg (by omega), if_pos (by omega), last], by omega, by omega⟩
    · refine ⟨0x80, 0xBF, ?_, by omega, by omega⟩
      rw [if_pos (by omega), Nat.add_sub_cancel]

theorem decodeFrom_char (c : Char) (rest : Octets) :
    decodeFrom none (String.utf8EncodeChar c ++ rest) = c :: decodeFrom none rest := by
  have hc : Char.ofNat c.val.toNat = c := Char.ofNat_toNat c
  have hbounds : c.val.toNat < 0xD800 ∨ 0xDFFF < c.val.toNat ∧ c.val.toNat < 0x110000 :=
    toNat_bounds c
  unfold String.utf8EncodeChar
  generalize c.val.toNat = v at hc hbounds
  -- by the number of bytes, which put the value together again
  dsimp only
  split
  · rw [List.cons_append, List.nil_append, decodeFrom, step, startByte, lead_whole (by omega), hc]
    rfl
  · split
    · rw [List.cons_append, decodeFrom_begins (lead_pair (by omega) (by omega)), List.cons_append,
        decodeFrom_last (by omega) (by omega), List.nil_append]
      have hv : v / 64 * 64 + v % 64 = v := by omega
      rw [hv, hc]
    · split
      · obtain ⟨low, high, hlead, hlow, hhigh⟩ :=
          lead_triple (v := v) (by omega) (by omega) (by omega)
        rw [List.cons_append, decodeFrom_begins hlead, List.cons_append,
          decodeFrom_trailing hlow hhigh, List.cons_append,
          decodeFrom_last (by omega) (by omega), List.nil_append]
        have hv : (v / 4096 * 64 + v / 64 % 64) * 64 + v % 64 = v := by omega
        rw [hv, hc]
      · obtain ⟨low, high, hlead, hlow, hhigh⟩ := lead_quad (v := v) (by omega) (by omega)
        rw [List.cons_append, decodeFrom_begins hlead, List.cons_append,
          decodeFrom_trailing hlow hhigh, List.cons_append,
          decodeFrom_trailing (by omega) (by omega), List.cons_append,
          decodeFrom_last (by omega) (by omega), List.nil_append]
        have hv : ((v / 262144 * 64 + v / 4096 % 64) * 64 + v / 64 % 64) * 64 + v % 64 = v := by
          omega
        rw [hv, hc]

/-- A text in UTF-8 is read back. -/
theorem decode_encode (s : List Char) : decode (encode s) = s := by
  rw [decode]
  induction s with
  | nil => rfl
  | cons c rest ih =>
    have hcons : encode (c :: rest) = String.utf8EncodeChar c ++ encode rest := List.flatMap_cons
    rw [hcons, decodeFrom_char, ih]

end Utf8

/-! ### Big-endian UTF-16 -/

namespace Utf16

/-- The units of a character: one, or from the second plane on a high and a low surrogate. -/
def units (c : Char) : List Nat :=
  if c.toNat < 0x10000 then [c.toNat]
  else [0xD800 + (c.toNat - 0x10000) / 0x400, 0xDC00 + (c.toNat - 0x10000) % 0x400]

def encode (s : List Char) : Octets := (s.flatMap units).flatMap Octets.ofWord

theorem encode_cons (c : Char) (rest : List Char) :
    encode (c :: rest) = (units c).flatMap Octets.ofWord ++ encode rest := by
  simp only [encode, List.flatMap_cons, List.flatMap_append]

theorem decodeFrom_unit {unit : Nat} (h : unit < 0x10000) (begun : Option Nat) (rest : Octets) :
    decodeFrom begun (Octets.ofWord unit ++ rest) =
      (step begun unit).1 ++ decodeFrom (step begun unit).2 rest := by
  rw [Octets.ofWord, List.cons_append, List.cons_append, List.nil_append, decodeFrom,
    Octets.word_ofWord h]

theorem decodeFrom_char (c : Char) (rest : Octets) :
    decodeFrom none ((units c).flatMap Octets.ofWord ++ rest) = c :: decodeFrom none rest := by
  have hc : Char.ofNat c.toNat = c := Char.ofNat_toNat c
  have hbounds := toNat_bounds c
  unfold units
  generalize c.toNat = v at hc hbounds
  split
  · have hstep : step none v = ([c], none) := by
      have hhigh : isHigh v = false := by simp [isHigh]; omega
      have hlow : isLow v = false := by simp [isLow]; omega
      simp [step, startUnit, hhigh, hlow, hc]
    rw [List.flatMap_cons, List.flatMap_nil, List.append_nil, decodeFrom_unit (by omega), hstep,
      List.cons_append, List.nil_append]
  · let high := 0xD800 + (v - 0x10000) / 0x400
    let low := 0xDC00 + (v - 0x10000) % 0x400
    have hhigh : step none high = ([], some high) := by
      have hhigh : isHigh high = true := by simp [isHigh, high]; omega
      simp [step, startUnit, hhigh]
    have hlow : step (some high) low = ([c], none) := by
      have hlow : isLow low = true := by simp [isLow, low]; omega
      have hv : 0x10000 + (high - 0xD800) * 0x400 + (low - 0xDC00) = v := by omega
      simp [step, hlow, combine, hv, hc]
    rw [List.flatMap_cons, List.flatMap_cons, List.flatMap_nil, List.append_nil, List.append_assoc,
      decodeFrom_unit (by omega), hhigh, List.nil_append, decodeFrom_unit (by omega), hlow,
      List.cons_append, List.nil_append]

/-- A text in UTF-16 is read back. -/
theorem decode_encode (s : List Char) : decode (encode s) = s := by
  rw [decode]
  induction s with
  | nil => rfl
  | cons c rest ih => rw [encode_cons, decodeFrom_char, ih]

/-- A mark of the byte order is a character, and one of the second plane is a pair of units. -/
example :
    encode [Char.ofNat 0xFEFF, Char.ofNat 0x1F600] = [0xFE, 0xFF, 0xD8, 0x3D, 0xDE, 0x00] := by
  decide

end Utf16

/-! ### Fields that select a Unicode table -/

theorem decodeField_utf8 (default : Codec) (s : List Char) :
    default.decodeField (0x15 :: Utf8.encode s) = .ok (s.map .char) := by
  have hfield : default.decodeField (0x15 :: Utf8.encode s) =
      .ok ((Utf8.decode (Utf8.encode s)).map .char) := rfl
  rw [hfield, Utf8.decode_encode]

theorem decodeField_utf16 (default : Codec) (s : List Char) :
    default.decodeField (0x11 :: Utf16.encode s) = .ok (s.map .char) := by
  have hfield : default.decodeField (0x11 :: Utf16.encode s) =
      .ok ((Utf16.decode (Utf16.encode s)).map .char) := rfl
  rw [hfield, Utf16.decode_encode]

theorem CodePoint.each_map_char (f : Char → List Char) (s : List Char) :
    each f (s.map char) = (s.flatMap f).map char := by
  rw [each, List.flatMap_map, List.map_flatMap]

theorem CodePoint.any_isRemoved_map_char (s : List Char) :
    (s.map char).any isRemoved = s.any (IsRemoved ·) := by
  rw [List.any_map]
  rfl

variable {registry : Registry}

/-- What a normalizer makes of a field that is decoded to characters. -/
theorem Normalizer.normalize_of_decodeField {n : Normalizer registry} {field : Octets}
    {s : List Char} (h : n.codec.decodeField field = .ok (s.map .char)) :
    (n.normalize field).1 = .ok ((escape (String.ofList (clean s))).toList.map .char) ∧
      (n.normalize field).2.tally = n.tally + ⟨if s.any (IsRemoved ·) then 1 else 0, 0⟩ := by
  obtain ⟨cached, hn⟩ := n.decode_eq field
  rw [normalize, hn, h, escape, String.toList_ofList, String.toList_ofList]
  dsimp only
  rw [CodePoint.each_map_char, CodePoint.each_map_char, hasForbidden_shown,
    CodePoint.any_isRemoved_map_char]
  exact ⟨rfl, rfl⟩

/-- Whatever the default encoding is and whatever was normalized before, a text in UTF-8 and the
same text in UTF-16 come out the same: cleaned and escaped, with one more warning if characters that
earn it were removed, and no error. -/
theorem normalize_unicode (start : Normalizer registry) (earlier : List Octets) (s : List Char) :
    let n := start.after earlier
    let text := (escape (String.ofList (clean s))).toList.map CodePoint.char
    let tally := n.tally + ⟨if s.any (IsRemoved ·) then 1 else 0, 0⟩
    ((n.normalize (0x15 :: Utf8.encode s)).1 = .ok text ∧
        (n.normalize (0x11 :: Utf16.encode s)).1 = .ok text) ∧
      (n.normalize (0x15 :: Utf8.encode s)).2.tally = tally ∧
        (n.normalize (0x11 :: Utf16.encode s)).2.tally = tally := by
  intro n text tally
  obtain ⟨htext8, htally8⟩ := Normalizer.normalize_of_decodeField (decodeField_utf8 n.codec s)
  obtain ⟨htext16, htally16⟩ := Normalizer.normalize_of_decodeField (decodeField_utf16 n.codec s)
  exact ⟨⟨htext8, htext16⟩, htally8, htally16⟩

end BroadcastGuide.Text
