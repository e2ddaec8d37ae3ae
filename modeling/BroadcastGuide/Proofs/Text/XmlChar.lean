import BroadcastGuide.Proofs.Text.Entities
import BroadcastGuide.Text.Normalizer

/-! The code points that a normalized field can hold. All are characters of XML 1.0 but halves of
surrogate pairs and two noncharacters, which stay whenever the decoded field has them. -/

namespace BroadcastGuide.Text

/-- A character that a document of XML 1.0 can carry. -/
def IsXmlChar (c : Char) : Prop :=
  c.toNat = 0x09 ∨ c.toNat = 0x0A ∨ c.toNat = 0x0D ∨ (0x20 ≤ c.toNat ∧ c.toNat ≤ 0xD7FF) ∨
    (0xE000 ≤ c.toNat ∧ c.toNat ≤ 0xFFFD) ∨ (0x10000 ≤ c.toNat ∧ c.toNat ≤ 0x10FFFF)

instance : DecidablePred IsXmlChar := fun _ =>
  inferInstanceAs (Decidable (_ ∨ _ ∨ _ ∨ (_ ∧ _) ∨ (_ ∧ _) ∨ (_ ∧ _)))

def IsNoncharacter (c : Char) : Prop := c.toNat = 0xFFFE ∨ c.toNat = 0xFFFF

instance : DecidablePred IsNoncharacter := fun _ => inferInstanceAs (Decidable (_ ∨ _))

theorem isNoncharacter_ofNat {n : Nat} (h : IsNoncharacter (Char.ofNat n)) :
    n = 0xFFFE ∨ n = 0xFFFF := by
  by_cases hn : n.isValidChar
  · have htoNat : (Char.ofNat n).toNat = n := by
      rw [Char.ofNat, dif_pos hn]
      rfl
    rwa [IsNoncharacter, htoNat] at h
  · have hzero : Char.ofNat n = Char.ofNat 0 := by
      rw [Char.ofNat, dif_neg hn]
      rfl
    rw [hzero] at h
    exact absurd h (by decide)

namespace CodePoint

/-- A code point that a document of XML 1.0 can carry. -/
def IsXml : CodePoint → Prop
  | char c => IsXmlChar c
  | surrogate _ => False

/-- Half of a surrogate pair, or a noncharacter. -/
def IsStray : CodePoint → Prop
  | char c => IsNoncharacter c
  | surrogate _ => True

theorem IsStray.not_isXml {p : CodePoint} (h : p.IsStray) : ¬p.IsXml := by
  cases p with
  | char c =>
    unfold IsStray IsNoncharacter at h
    unfold IsXml IsXmlChar
    omega
  | surrogate place => exact id

theorem mem_each {f : Char → List Char} {s : List CodePoint} {p : CodePoint} (h : p ∈ each f s) :
    (∃ c d, char c ∈ s ∧ d ∈ f c ∧ p = char d) ∨ ∃ place, p = surrogate place ∧ p ∈ s := by
  obtain ⟨q, hq, hp⟩ := List.mem_flatMap.mp h
  cases q with
  | char c =>
    obtain ⟨d, hd, rfl⟩ := List.mem_map.mp hp
    exact Or.inl ⟨c, d, hq, hd, rfl⟩
  | surrogate place =>
    cases List.mem_singleton.mp hp
    exact Or.inr ⟨place, rfl, hq⟩

/-- What takes no noncharacter away and makes none leaves all stray code points as they are. -/
theorem mem_each_of_isStray {f : Char → List Char}
    (stays : ∀ c d, IsNoncharacter d → (d ∈ f c ↔ d = c)) {s : List CodePoint} {p : CodePoint}
    (h : p.IsStray) : p ∈ each f s ↔ p ∈ s := by
  constructor
  · intro hp
    rcases mem_each hp with ⟨c, d, hc, hd, rfl⟩ | ⟨place, -, hp⟩
    · rwa [(stays c d h).mp hd]
    · exact hp
  · intro hp
    refine List.mem_flatMap.mpr ⟨p, hp, ?_⟩
    cases p with
    | char c => exact List.mem_map_of_mem ((stays c c h).mpr rfl)
    | surrogate place => exact List.mem_singleton_self _

end CodePoint

/-! ### Cleaning and escaping -/

theorem isXmlChar_of_keep {c : Char} (h : fate c = .keep) : IsXmlChar c ∨ IsNoncharacter c := by
  have hvalid : c.toNat < 0xD800 ∨ 0xDFFF < c.toNat ∧ c.toNat < 0x110000 := c.valid
  unfold fate at h
  generalize hn : (if 0xE080 ≤ c.toNat ∧ c.toNat ≤ 0xE09F then c.toNat - 0xE000 else c.toNat) = n
    at h
  dsimp only at h
  split at h
  · cases h
  · split at h
    · cases h
    · split at h
      · cases h
      · unfold IsXmlChar IsNoncharacter
        split at hn <;> omega

theorem fate_of_isNoncharacter {c : Char} (h : IsNoncharacter c) : fate c = .keep := by
  have hc := Char.ofNat_toNat c
  rcases h with h | h <;> rw [h] at hc <;> subst hc <;> decide

theorem mem_cleanChar {c d : Char} (h : d ∈ cleanChar c) : d = '\n' ∨ d = c ∧ fate c = .keep := by
  unfold cleanChar at h
  split at h
  · rename_i hkeep
    exact Or.inr ⟨List.mem_singleton.mp h, hkeep⟩
  · exact Or.inl (List.mem_singleton.mp h)
  · exact absurd h List.not_mem_nil
  · exact absurd h List.not_mem_nil

theorem mem_cleanChar_of_isNoncharacter {c d : Char} (h : IsNoncharacter d) :
    d ∈ cleanChar c ↔ d = c := by
  constructor
  · intro hd
    rcases mem_cleanChar hd with rfl | ⟨rfl, -⟩
    · exact absurd h (by decide)
    · rfl
  · rintro rfl
    rw [cleanChar, fate_of_isNoncharacter h]
    exact List.mem_singleton_self d

theorem mem_escapeChar_of_isNoncharacter {c d : Char} (h : IsNoncharacter d) :
    d ∈ escapeChar c ↔ d = c := by
  constructor
  · intro hd
    rcases mem_escapeChar hd with hentity | ⟨rfl, -⟩
    · have hnone : ∀ e ∈ entityChars, ¬IsNoncharacter e := by simp [entityChars, IsNoncharacter]
      exact absurd h (hnone d hentity)
    · rfl
  · rintro rfl
    have hne (n : Nat) (hn : n < 0x80) : d ≠ Char.ofNat n := by
      rintro rfl
      have := isNoncharacter_ofNat h
      omega
    rw [escapeChar, if_neg (hne 0x26 (by decide)), if_neg (hne 0x3C (by decide)),
      if_neg (hne 0x3E (by decide))]
    exact List.mem_singleton_self d

namespace CodePoint

/-- What is cleaned and then escaped. -/
def marked (s : List CodePoint) : List CodePoint := each escapeChar (each cleanChar s)

theorem isXml_or_isStray {s : List CodePoint} {p : CodePoint} (h : p ∈ marked s) :
    p.IsXml ∨ p.IsStray := by
  have hclean : ∀ q ∈ each cleanChar s, q.IsXml ∨ q.IsStray := by
    intro q hq
    rcases mem_each hq with ⟨c, d, -, hd, rfl⟩ | ⟨place, rfl, -⟩
    · rcases mem_cleanChar hd with rfl | ⟨rfl, hkeep⟩
      · exact Or.inl (by decide : IsXmlChar '\n')
      · exact isXmlChar_of_keep hkeep
    · exact Or.inr trivial
  rcases mem_each h with ⟨c, d, hc, hd, rfl⟩ | ⟨place, rfl, -⟩
  · rcases mem_escapeChar hd with hentity | ⟨rfl, -⟩
    · have hentities : ∀ e ∈ entityChars, IsXmlChar e := by simp [entityChars, IsXmlChar]
      exact Or.inl (hentities d hentity)
    · exact hclean _ hc
  · exact Or.inr trivial

theorem mem_marked_of_isStray {s : List CodePoint} {p : CodePoint} (h : p.IsStray) :
    p ∈ marked s ↔ p ∈ s := by
  rw [marked, mem_each_of_isStray (fun _ _ => mem_escapeChar_of_isNoncharacter) h,
    mem_each_of_isStray (fun _ _ => mem_cleanChar_of_isNoncharacter) h]

end CodePoint

/-! ### Which tables have noncharacters -/

def IsCharacterText (s : List Char) : Prop := ∀ c ∈ s, ¬IsNoncharacter c

instance (s : List Char) : Decidable (IsCharacterText s) :=
  List.decidableBAll (¬IsNoncharacter ·) s

def IsCharacterTable (places : List Nat) : Prop := ∀ n ∈ places, n ≠ 0xFFFE ∧ n ≠ 0xFFFF

instance (places : List Nat) : Decidable (IsCharacterTable places) :=
  List.decidableBAll (fun n => n ≠ 0xFFFE ∧ n ≠ 0xFFFF) places

theorem not_isNoncharacter_ofNat {n : Nat} (h : n ≠ 0xFFFE ∧ n ≠ 0xFFFF) :
    ¬IsNoncharacter (Char.ofNat n) := by
  intro hn
  have := isNoncharacter_ofNat hn
  omega

theorem not_isNoncharacter_octet (b : UInt8) : ¬IsNoncharacter (Char.ofNat b.toNat) := by
  have := b.toNat_lt
  exact not_isNoncharacter_ofNat (by omega)

theorem IsCharacterTable.getD {places : List Nat} (h : IsCharacterTable places) (i : Nat)
    (other : Nat) (hother : other ≠ 0xFFFE ∧ other ≠ 0xFFFF) :
    places.getD i other ≠ 0xFFFE ∧ places.getD i other ≠ 0xFFFF := by
  rw [List.getD_eq_getElem?_getD]
  cases hi : places[i]? with
  | none => exact hother
  | some n => exact h n (List.mem_of_getElem? hi)

theorem isCharacterText_nil : IsCharacterText [] := fun _ hc => absurd hc List.not_mem_nil

theorem isCharacterText_cons {c : Char} {s : List Char} (hc : ¬IsNoncharacter c)
    (hs : IsCharacterText s) : IsCharacterText (c :: s) := by
  intro d hd
  rcases List.mem_cons.mp hd with rfl | hd
  · exact hc
  · exact hs d hd

theorem isCharacterText_append {s t : List Char} (hs : IsCharacterText s)
    (ht : IsCharacterText t) : IsCharacterText (s ++ t) := by
  intro c hc
  rcases List.mem_append.mp hc with hc | hc
  · exact hs c hc
  · exact ht c hc

theorem isCharacterText_map {bytes : Octets} {f : UInt8 → Char} (h : ∀ b, ¬IsNoncharacter (f b)) :
    IsCharacterText (bytes.map f) := by
  intro c hc
  obtain ⟨b, _, rfl⟩ := List.mem_map.mp hc
  exact h b

namespace Iso8859

theorem isCharacterTable_upper {n : Nat} {places : List Nat} (h : upper? n = some places) :
    IsCharacterTable places := by
  unfold upper? at h
  split at h <;> cases h <;> decide

theorem isCharacterText_decode {places : List Nat} (h : IsCharacterTable places) (bytes : Octets) :
    IsCharacterText (decode places bytes) := by
  refine isCharacterText_map fun b => ?_
  unfold decodeByte
  split
  · exact not_isNoncharacter_octet b
  · exact not_isNoncharacter_ofNat (h.getD _ _ (by decide))

end Iso8859

namespace Latin

theorem isCharacterText_composed (mark : Char) : IsCharacterText (composed mark).toList := by
  unfold composed
  split <;> decide +kernel

theorem mem_of_findComposed {letter whole : Char} {forms : List Char}
    (h : findComposed letter forms = some whole) : whole ∈ forms := by
  fun_induction findComposed letter forms with
  | case1 =>
    cases h
    exact List.mem_cons_of_mem _ List.mem_cons_self
  | case2 _ _ _ _ ih => exact List.mem_cons_of_mem _ (List.mem_cons_of_mem _ (ih h))
  | case3 => cases h

theorem isCharacterText_place {pending : Option Char} (h : ∀ mark ∈ pending, ¬IsNoncharacter mark)
    (b : UInt8) : IsCharacterText (place pending b) := by
  have hchar : ∀ c, char? b = some c → ¬IsNoncharacter c := by
    have hupper : IsCharacterTable upper := by decide
    have hplace := hupper.getD (b.toNat - 0xA0) 0 (by decide)
    intro c hc
    unfold char? at hc
    generalize upper.getD (b.toNat - 0xA0) 0 = n at hc hplace
    split at hc
    · cases hc
      exact not_isNoncharacter_octet b
    · cases n with
      | zero => cases hc
      | succ n =>
        cases hc
        exact not_isNoncharacter_ofNat hplace
  unfold place
  split
  · exact isCharacterText_nil
  · rename_i c hc
    exact isCharacterText_cons (hchar c hc) isCharacterText_nil
  · rename_i c mark hc
    unfold compose
    split
    · rename_i whole hwhole
      exact isCharacterText_cons (isCharacterText_composed mark whole (mem_of_findComposed hwhole))
        isCharacterText_nil
    · exact isCharacterText_cons (hchar c hc)
        (isCharacterText_cons (h mark rfl) isCharacterText_nil)

theorem isCharacterText_decodeFrom {pending : Option Char}
    (h : ∀ mark ∈ pending, ¬IsNoncharacter mark) (bytes : Octets) :
    IsCharacterText (decodeFrom pending bytes) := by
  have hmark : ∀ n, ∀ mark ∈ mark? n, ¬IsNoncharacter mark := by
    intro n mark hn
    unfold mark? at hn
    split at hn <;> cases hn <;> decide
  induction bytes generalizing pending with
  | nil => exact isCharacterText_nil
  | cons b rest ih =>
    unfold decodeFrom
    split
    · exact ih (hmark b.toNat)
    · exact isCharacterText_append (isCharacterText_place h b) (ih (by simp))

end Latin

namespace DoubleByte

/-- The characters of a chart lie below the replacement character. -/
theorem not_isNoncharacter_charAt {chart : List String} {row place : Nat} {c : Char}
    (h : charAt? chart row place = some c) : ¬IsNoncharacter c := by
  obtain ⟨-, hlt⟩ := Option.filter_eq_some_iff.mp h
  have hbelow : c.toNat < 0xFFFD := of_decide_eq_true hlt
  unfold IsNoncharacter
  omega

theorem not_isNoncharacter_pairAt {chart : List String} {b next : UInt8} {c : Char}
    (h : pairAt? chart b next = some c) : ¬IsNoncharacter c := by
  unfold pairAt? at h
  split at h
  · exact not_isNoncharacter_charAt h
  · cases h

theorem not_isNoncharacter_traditionalChinese {b next : UInt8} {c : Char}
    (h : traditionalChinese? b next = some c) : ¬IsNoncharacter c := by
  unfold traditionalChinese? at h
  split at h
  · cases h
  · split at h
    · exact not_isNoncharacter_charAt h
    · split at h
      · cases h
      · exact not_isNoncharacter_charAt h

theorem isCharacterText_decode {pair? : UInt8 → UInt8 → Option Char}
    (h : ∀ {b next c}, pair? b next = some c → ¬IsNoncharacter c) (bytes : Octets) :
    IsCharacterText (decode pair? bytes) := by
  have hmalformed : ¬IsNoncharacter malformed := by decide
  fun_induction decode pair? bytes with
  | case1 => exact isCharacterText_nil
  | case2 b => exact isCharacterText_cons (not_isNoncharacter_octet b) isCharacterText_nil
  | case3 => exact isCharacterText_cons hmalformed isCharacterText_nil
  | case4 b _ _ _ ih => exact isCharacterText_cons (not_isNoncharacter_octet b) ih
  | case5 _ _ _ _ _ hc ih => exact isCharacterText_cons (h hc) ih
  | case6 _ _ _ _ _ ih => exact isCharacterText_cons hmalformed ih

theorem lt_of_getD {places : List (Option Nat)} {bound i n : Nat}
    (h : ∀ place ∈ places, ∀ m ∈ place, m < bound) (hn : places.getD i none = some n) :
    n < bound := by
  rw [List.getD_eq_getElem?_getD] at hn
  cases hi : places[i]? with
  | none =>
    rw [hi] at hn
    cases hn
  | some place =>
    rw [hi] at hn
    exact h place (List.mem_of_getElem? hi) n hn

/-- The syllables lie below the surrogates. -/
theorem not_isNoncharacter_syllable {i v f : UInt8} {c : Char} (h : syllable? i v f = some c) :
    ¬IsNoncharacter c := by
  have hinitial : ∀ n, initial? i = some n → n < 19 := by
    intro n hn
    unfold initial? at hn
    split at hn
    · cases hn
    · exact lt_of_getD (by decide) hn
  have hvowel : ∀ n, vowel? v = some n → n < 21 := by
    intro n hn
    unfold vowel? at hn
    split at hn
    · obtain rfl := Option.some.inj hn
      omega
    · cases hn
  have hfinal : ∀ n, final? f = some n → n < 28 := by
    intro n hn
    unfold final? at hn
    split at hn
    · obtain rfl := Option.some.inj hn
      decide
    · split at hn
      · cases hn
      · exact lt_of_getD (by decide) hn
  simp only [syllable?, Option.bind_eq_bind, Option.bind_eq_some_iff] at h
  obtain ⟨initial, hi, vowel, hv, final, hf, hc⟩ := h
  have := hinitial initial hi
  have := hvowel vowel hv
  have := hfinal final hf
  obtain rfl := Option.some.inj hc
  exact not_isNoncharacter_ofNat (by omega)

theorem isCharacterText_decodeKorean (bytes : Octets) : IsCharacterText (decodeKorean bytes) := by
  have hmalformed : ¬IsNoncharacter malformed := by decide
  fun_induction decodeKorean bytes with
  | case1 => exact isCharacterText_nil
  | case2 b => exact isCharacterText_cons (not_isNoncharacter_octet b) isCharacterText_nil
  | case3 => exact isCharacterText_cons hmalformed isCharacterText_nil
  | case4 b _ _ _ ih => exact isCharacterText_cons (not_isNoncharacter_octet b) ih
  | case5 =>
    rename_i hc ih
    split at hc
    · exact isCharacterText_cons (not_isNoncharacter_syllable hc) ih
    · cases hc
  | case6 =>
    rename_i ih
    exact isCharacterText_cons hmalformed ih
  | case7 => exact isCharacterText_cons hmalformed isCharacterText_nil
  | case8 =>
    rename_i hc ih
    exact isCharacterText_cons (not_isNoncharacter_pairAt hc) ih
  | case9 =>
    rename_i ih
    exact isCharacterText_cons hmalformed ih

end DoubleByte

namespace CharacterTable

/-- The Latin table and the regional ones have no noncharacters. -/
theorem isCharacterText_decode {table : CharacterTable} (h : table ∈ latin :: regional)
    (bytes : Octets) : IsCharacterText (table.decode bytes) := by
  simp only [regional, List.cons_append, List.nil_append, List.mem_cons, List.mem_filterMap,
    Option.map_eq_some_iff] at h
  rcases h with rfl | rfl | rfl | rfl | rfl | ⟨_, -, part, -, rfl⟩
  · exact Latin.isCharacterText_decodeFrom (by simp) bytes
  · refine isCharacterText_map fun b => ?_
    split
    · exact not_isNoncharacter_octet b
    · decide
  · exact DoubleByte.isCharacterText_decodeKorean bytes
  · exact DoubleByte.isCharacterText_decode DoubleByte.not_isNoncharacter_pairAt bytes
  · exact DoubleByte.isCharacterText_decode DoubleByte.not_isNoncharacter_traditionalChinese bytes
  · exact Iso8859.isCharacterText_decode
      (Iso8859.isCharacterTable_upper (Option.some_get part.published).symm) bytes

end CharacterTable

/-- The codec of a field: that of the table which it selects, or else the default. -/
def Codec.forField (default : Codec) (field : Octets) : Codec :=
  match select field with
  | .ok (.selected table _) => table.codec
  | _ => default

theorem Codec.decodeField_eq_ok {default : Codec} {field : Octets} {s : List CodePoint}
    (h : default.decodeField field = .ok s) :
    s = [] ∨ ∃ body, (default.forField field).decode body = .ok s := by
  cases field with
  | nil =>
    cases h
    exact Or.inl rfl
  | cons first rest =>
    rw [forField, select]
    rw [decodeField] at h
    split at h <;> rename_i hselect <;> rw [hselect]
    · cases h
    · cases hbody : default.decode (first :: rest) with
      | error fault =>
        rw [hbody] at h
        cases h
      | ok t =>
        rw [hbody] at h
        cases h
        exact Or.inr ⟨first :: rest, hbody⟩
    · cases h
      exact Or.inr ⟨_, rfl⟩

/-! ### The normalized text -/

variable {registry : Registry}

theorem Normalizer.normalize_eq_ok {n : Normalizer registry} {field : Octets}
    {text : List CodePoint} (h : (n.normalize field).1 = .ok text) :
    text = [] ∧ (∃ e, n.codec.decodeField field = .error (.malformed e)) ∨
      ∃ s, n.codec.decodeField field = .ok s ∧ text = CodePoint.marked s := by
  obtain ⟨cached, hdecode⟩ := n.decode_eq field
  rw [normalize, hdecode] at h
  dsimp only at h
  split at h
  · rename_i e he
    cases h
    exact Or.inl ⟨rfl, e, he⟩
  · cases h
  · rename_i s hs
    cases h
    exact Or.inr ⟨s, hs, rfl⟩

/-- Whatever the default encoding is, a normalized text holds no other code points than the
characters of XML and the stray ones, and a stray code point is there just when the decoded field
has it. The Latin table and the regional ones have none. -/
theorem normalize_isXml {n : Normalizer registry} {field : Octets} {text : List CodePoint}
    (h : (n.normalize field).1 = .ok text) :
    (∀ p ∈ text, p.IsXml ∨ p.IsStray) ∧
      (∀ p : CodePoint, p.IsStray → ¬p.IsXml ∧
        (p ∈ text ↔ ∃ s, n.codec.decodeField field = .ok s ∧ p ∈ s)) ∧
      ∀ table ∈ CharacterTable.latin :: CharacterTable.regional,
        n.codec.forField field = table.codec → ∀ p ∈ text, p.IsXml := by
  rcases Normalizer.normalize_eq_ok h with ⟨rfl, e, he⟩ | ⟨s, hs, rfl⟩
  · simp only [he]
    exact ⟨nofun, fun p hp => ⟨hp.not_isXml, by simp⟩, fun _ _ _ => nofun⟩
  · refine ⟨fun p => CodePoint.isXml_or_isStray, fun p hp => ⟨hp.not_isXml, ?_⟩, ?_⟩
    · rw [CodePoint.mem_marked_of_isStray hp]
      simp [hs]
    · intro table htable hcodec p hp
      refine (CodePoint.isXml_or_isStray hp).resolve_right fun stray => ?_
      have hmem := (CodePoint.mem_marked_of_isStray stray).mp hp
      rcases Codec.decodeField_eq_ok hs with rfl | ⟨body, hbody⟩
      · cases hmem
      · rw [hcodec] at hbody
        cases hbody
        obtain ⟨c, hc, rfl⟩ := List.mem_map.mp hmem
        exact CharacterTable.isCharacterText_decode htable body c hc stray

/-- A field in UTF-8 that holds the code point FFFE. -/
def noncharacterField : Octets := [0x15, 0xEF, 0xBF, 0xBE]

theorem normalize_isXml_noncharacter :
    let n : Normalizer .known := ⟨none, none, 0⟩
    let p : CodePoint := .char (Char.ofNat 0xFFFE)
    (n.normalize noncharacterField).1 = .ok [p] ∧
      ∃ s, n.codec.decodeField noncharacterField = .ok s ∧ p ∈ s := by
  intro n p
  have h : (n.normalize noncharacterField).1 = .ok [p] := by rfl
  exact ⟨h, (((normalize_isXml h).2.1 p (Or.inl rfl)).2).mp List.mem_cons_self⟩

/-- Such a field keeps the code point, which no document can carry. -/
theorem normalize_not_isXml : ¬∀ (n : Normalizer .known) (field : Octets) (text : List CodePoint),
    (n.normalize field).1 = .ok text → ∀ p ∈ text, p.IsXml := by
  intro h
  have hp := h ⟨none, none, 0⟩ noncharacterField [.char (Char.ofNat 0xFFFE)] (by rfl) _
    List.mem_cons_self
  exact absurd hp (CodePoint.IsStray.not_isXml (Or.inl rfl))

end BroadcastGuide.Text
