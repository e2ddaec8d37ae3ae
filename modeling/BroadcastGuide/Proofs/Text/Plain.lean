import BroadcastGuide.Text.Field

/-! Printable text of ASCII. It selects no table, the default table leaves it alone, and it holds
nothing to clean. -/

namespace BroadcastGuide.Text

def IsPlain (field : Octets) : Prop := ∀ b ∈ field, 0x20 ≤ b.toNat ∧ b.toNat ≤ 0x7E

instance (field : Octets) : Decidable (IsPlain field) :=
  List.decidableBAll (fun b : UInt8 => 0x20 ≤ b.toNat ∧ b.toNat ≤ 0x7E) field

def plainChars (field : Octets) : List Char := field.map fun b => Char.ofNat b.toNat

def plainText (field : Octets) : String := String.ofList (plainChars field)

theorem isPlain_cons {b : UInt8} {rest : Octets} (h : IsPlain (b :: rest)) :
    (0x20 ≤ b.toNat ∧ b.toNat ≤ 0x7E) ∧ IsPlain rest :=
  ⟨h b List.mem_cons_self, fun c hc => h c (List.mem_cons_of_mem b hc)⟩

theorem fate_plain {n : Nat} (low : 0x20 ≤ n) (high : n ≤ 0x7E) : fate (Char.ofNat n) = .keep := by
  have hall : ∀ m < 0x7F, 0x20 ≤ m → fate (Char.ofNat m) = .keep := by decide
  exact hall n (by omega) low

theorem Latin.decode_plain {field : Octets} (h : IsPlain field) :
    Latin.decode field = plainChars field := by
  unfold Latin.decode
  induction field with
  | nil => rfl
  | cons b rest ih =>
    obtain ⟨⟨low, high⟩, hrest⟩ := isPlain_cons h
    have hmark : Latin.isMark b = false := by
      simp [Latin.isMark]
      omega
    have hplace : Latin.place none b = [Char.ofNat b.toNat] := by
      have hchar : Latin.char? b = some (Char.ofNat b.toNat) := if_pos (by omega)
      simp only [Latin.place, hchar]
    rw [Latin.decodeFrom, hmark, if_neg Bool.false_ne_true, hplace, ih hrest]
    rfl

theorem decodeField_plain {field : Octets} (h : IsPlain field) :
    decodeField .latin field = .ok (plainChars field) := by
  cases field with
  | nil => rfl
  | cons b rest =>
    have hselect : selectAfter b rest = .ok .byDefault := if_pos (isPlain_cons h).1.1
    rw [decodeField, hselect]
    exact congrArg Except.ok (Latin.decode_plain h)

theorem clean_of_keep {s : List Char} (h : ∀ c ∈ s, fate c = .keep) : clean s = s := by
  induction s with
  | nil => rfl
  | cons c rest ih =>
    have hc : cleanChar c = [c] := by simp only [cleanChar, h c List.mem_cons_self]
    have hrest := ih fun d hd => h d (List.mem_cons_of_mem c hd)
    unfold clean at hrest ⊢
    rw [List.flatMap_cons, hc, hrest]
    rfl

theorem cleanTallied_of_keep {s : List Char} (h : ∀ c ∈ s, fate c = .keep) :
    cleanTallied s = ⟨s, 0⟩ := by
  have hforbidden : hasForbidden s = false := by
    rw [hasForbidden, List.any_eq_false]
    intro c hc
    rw [h c hc]
    decide
  rw [cleanTallied, clean_of_keep h, hforbidden]
  rfl

/-- Plain text comes out escaped, without warning or error. -/
theorem normalize_plain {field : Octets} (h : IsPlain field) :
    normalize .latin field = ⟨escape (plainText field), 0⟩ := by
  have hkeep : ∀ c ∈ plainChars field, fate c = .keep := by
    intro c hc
    obtain ⟨b, hb, rfl⟩ := List.mem_map.mp hc
    exact fate_plain (h b hb).1 (h b hb).2
  rw [normalize, decodeField_plain h]
  dsimp only
  rw [cleanTallied_of_keep hkeep, escape, plainText, String.toList_ofList]
  rfl

theorem escapeChar_ne_nil (c : Char) : escapeChar c ≠ [] := by
  unfold escapeChar
  split
  · simp
  · split
    · simp
    · split <;> simp

theorem isEmpty_escape_plainText {field : Octets} (h : field ≠ []) :
    (escape (plainText field)).isEmpty = false := by
  obtain ⟨b, rest, rfl⟩ := List.exists_cons_of_ne_nil h
  rw [← Bool.not_eq_true, String.isEmpty_iff, escape, String.ofList_eq_empty_iff, plainText,
    String.toList_ofList, plainChars, List.map_cons, escapeChars, List.flatMap_cons]
  intro happend
  exact escapeChar_ne_nil _ (List.append_eq_nil_iff.mp happend).1

end BroadcastGuide.Text
