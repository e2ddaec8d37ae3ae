import BroadcastGuide.Language
import BroadcastGuide.Numeral.Hexadecimal
import BroadcastGuide.Text.Field

/-! Entities undone, and texts without the marks by which a reader tells tags from text. -/

namespace BroadcastGuide.Text

/-- Undoes the entities of character data and of quoted attributes in one pass from the left. -/
def undoEntities : List Char → List Char
  | '&' :: 'a' :: 'm' :: 'p' :: ';' :: rest => '&' :: undoEntities rest
  | '&' :: 'l' :: 't' :: ';' :: rest => '<' :: undoEntities rest
  | '&' :: 'g' :: 't' :: ';' :: rest => '>' :: undoEntities rest
  | '&' :: 'q' :: 'u' :: 'o' :: 't' :: ';' :: rest => '"' :: undoEntities rest
  | c :: rest => c :: undoEntities rest
  | [] => []

def undo (s : String) : String := String.ofList (undoEntities s.toList)

theorem undoEntities_cons {c : Char} (h : c ≠ '&') (rest : List Char) :
    undoEntities (c :: rest) = c :: undoEntities rest := by
  rw [undoEntities] <;> simp_all

theorem undoEntities_escapeChar (c : Char) (rest : List Char) :
    undoEntities (escapeChar c ++ rest) = c :: undoEntities rest := by
  unfold escapeChar
  by_cases h₁ : c = '&'
  · simp [undoEntities, h₁]
  · by_cases h₂ : c = '<'
    · simp [undoEntities, h₂]
    · by_cases h₃ : c = '>'
      · simp [undoEntities, h₃]
      · simp [undoEntities_cons h₁, h₁, h₂, h₃]

theorem undoEntities_escapeAttributeChar (c : Char) (rest : List Char) :
    undoEntities (escapeAttributeChar c ++ rest) = c :: undoEntities rest := by
  unfold escapeAttributeChar
  by_cases h : c = '"'
  · simp [undoEntities, h]
  · rw [if_neg h, undoEntities_escapeChar]

theorem undoEntities_flatMap {escaped : Char → List Char}
    (h : ∀ c rest, undoEntities (escaped c ++ rest) = c :: undoEntities rest) (s : List Char) :
    undoEntities (s.flatMap escaped) = s := by
  induction s with
  | nil => rfl
  | cons c rest ih => rw [List.flatMap_cons, h, ih]

@[simp] theorem undo_escape (s : String) : undo (escape s) = s := by
  rw [undo, escape, String.toList_ofList, escapeChars,
    undoEntities_flatMap undoEntities_escapeChar, String.ofList_toList]

@[simp] theorem undo_escapeAttribute (s : String) : undo (escapeAttribute s) = s := by
  rw [undo, escapeAttribute, String.toList_ofList,
    undoEntities_flatMap undoEntities_escapeAttributeChar, String.ofList_toList]

/-! ### Texts without marks -/

def Avoids (marks : List Char) (s : String) : Prop := ∀ c ∈ s.toList, c ∉ marks

instance (marks : List Char) (s : String) : Decidable (Avoids marks s) :=
  List.decidableBAll (· ∉ marks) s.toList

/-- What opens and closes a tag. -/
def brackets : List Char := ['<', '>']

/-- What ends an attribute or its tag. -/
def delimiters : List Char := '"' :: brackets

/-- All that is not itself in a quoted attribute. -/
def reserved : List Char := '&' :: delimiters

namespace Avoids

variable {marks others : List Char} {s t : String}

theorem of_subset (h : Avoids marks s) (hsub : others ⊆ marks) : Avoids others s :=
  fun c hc hmem => h c hc (hsub hmem)

theorem of_delimiters (h : Avoids delimiters s) : Avoids brackets s :=
  h.of_subset (List.subset_cons_self _ _)

theorem of_reserved (h : Avoids reserved s) : Avoids delimiters s :=
  h.of_subset (List.subset_cons_self _ _)

theorem empty : Avoids marks "" := fun _ hc => absurd hc List.not_mem_nil

theorem append (hs : Avoids marks s) (ht : Avoids marks t) : Avoids marks (s ++ t) := by
  intro c hc
  rw [String.toList_append, List.mem_append] at hc
  rcases hc with hc | hc
  · exact hs c hc
  · exact ht c hc

theorem join {texts : List String} (h : ∀ s ∈ texts, Avoids marks s) :
    Avoids marks (String.join texts) := by
  intro c hc
  rw [String.toList_join, List.mem_flatMap] at hc
  obtain ⟨s, hs, hc⟩ := hc
  exact h s hs c hc

theorem undo_eq (h : Avoids reserved s) : undo s = s := by
  have hself : ∀ chars : List Char, '&' ∉ chars → undoEntities chars = chars := by
    intro chars hchars
    induction chars with
    | nil => rfl
    | cons c rest ih =>
      have hc : c ≠ '&' := fun hc => hchars (hc ▸ List.mem_cons_self)
      rw [undoEntities_cons hc, ih fun hrest => hchars (List.mem_cons_of_mem _ hrest)]
  rw [undo, hself _ fun hmem => h _ hmem List.mem_cons_self, String.ofList_toList]

end Avoids

def entityChars : List Char := ['&', 'a', 'g', 'l', 'm', 'o', 'p', 'q', 't', 'u', ';']

theorem mem_escapeChar {c d : Char} (h : d ∈ escapeChar c) :
    d ∈ entityChars ∨ d = c ∧ c ∉ brackets := by
  unfold escapeChar at h
  split at h
  · exact Or.inl ((by decide : ['&', 'a', 'm', 'p', ';'] ⊆ entityChars) h)
  · split at h
    · exact Or.inl ((by decide : ['&', 'l', 't', ';'] ⊆ entityChars) h)
    · split at h
      · exact Or.inl ((by decide : ['&', 'g', 't', ';'] ⊆ entityChars) h)
      · exact Or.inr ⟨List.mem_singleton.mp h, by simp [brackets, *]⟩

theorem mem_escapeAttributeChar {c d : Char} (h : d ∈ escapeAttributeChar c) :
    d ∈ entityChars ∨ d = c ∧ c ∉ delimiters := by
  unfold escapeAttributeChar at h
  split at h
  · exact Or.inl ((by decide : ['&', 'q', 'u', 'o', 't', ';'] ⊆ entityChars) h)
  · rename_i hquote
    exact (mem_escapeChar h).imp_right fun ⟨hd, hc⟩ =>
      ⟨hd, List.not_mem_cons_of_ne_of_not_mem hquote hc⟩

theorem avoids_flatMap {marks : List Char} {escaped : Char → List Char}
    (hentities : ∀ d ∈ entityChars, d ∉ marks)
    (h : ∀ c, ∀ d ∈ escaped c, d ∈ entityChars ∨ d = c ∧ c ∉ marks) (s : List Char) :
    Avoids marks (String.ofList (s.flatMap escaped)) := by
  intro d hd
  rw [String.toList_ofList] at hd
  obtain ⟨c, _, hc⟩ := List.mem_flatMap.mp hd
  rcases h c d hc with hd | ⟨rfl, hd⟩
  · exact hentities d hd
  · exact hd

theorem avoids_escapeChars (s : List Char) : Avoids brackets (String.ofList (escapeChars s)) :=
  avoids_flatMap (by simp [entityChars, brackets]) (fun _ _ => mem_escapeChar) s

theorem avoids_escape (s : String) : Avoids brackets (escape s) := avoids_escapeChars s.toList

theorem avoids_escapeAttribute (s : String) : Avoids delimiters (escapeAttribute s) :=
  avoids_flatMap (by simp [entityChars, delimiters, brackets])
    (fun _ _ => mem_escapeAttributeChar) s.toList

theorem avoids_normalize (default : CharacterTable) (field : Octets) :
    Avoids brackets (normalize default field).value := by
  unfold normalize
  split
  · exact Avoids.empty
  · exact avoids_escapeChars _

theorem avoids_language (raw : Octets) : Avoids delimiters (Language.ofBytes raw) :=
  avoids_escapeAttribute _

/-! ### Numerals -/

theorem digitChar_not_mem_reserved (n : Nat) : Nat.digitChar n ∉ reserved := by
  by_cases h : n < 16
  · exact (by decide : ∀ n < 16, Nat.digitChar n ∉ reserved) n h
  · have hstar : Nat.digitChar n = '*' := by
      unfold Nat.digitChar
      repeat rw [if_neg (by omega)]
    rw [hstar]
    decide

theorem not_mem_reserved_of_mem_toDigits {base n : Nat} (hbase : 1 < base) {c : Char}
    (h : c ∈ Nat.toDigits base n) : c ∉ reserved := by
  induction n using Nat.strongRecOn with
  | ind n ih =>
    by_cases hn : n < base
    · rw [Nat.toDigits_of_lt_base hn, List.mem_singleton] at h
      exact h ▸ digitChar_not_mem_reserved n
    · rw [Nat.toDigits_of_base_le hbase (by omega), List.mem_append, List.mem_singleton] at h
      rcases h with h | rfl
      · exact ih (n / base) (Nat.div_lt_self (by omega) hbase) h
      · exact digitChar_not_mem_reserved _

theorem avoids_signed (width : Nat) (n : Int) {digits : List Char}
    (h : ∀ c ∈ digits, c ∉ reserved) : Avoids reserved (Numeral.signed width n digits) := by
  intro c hc
  simp only [Numeral.signed, String.toList_ofList, List.mem_append, List.mem_replicate] at hc
  rcases hc with (hc | ⟨_, rfl⟩) | hc
  · split at hc
    · cases List.mem_singleton.mp hc
      decide
    · cases hc
  · decide
  · exact h c hc

theorem avoids_padded (width : Nat) (n : Int) : Avoids reserved (Numeral.padded width n) :=
  avoids_signed width n fun _ => not_mem_reserved_of_mem_toDigits (by decide)

theorem avoids_hexLower (width : Nat) (n : Int) : Avoids reserved (Numeral.hexLower width n) :=
  avoids_signed width n fun _ => not_mem_reserved_of_mem_toDigits (by decide)

theorem avoids_toString (n : Int) : Avoids reserved (toString n) := by
  have hnat (m : Nat) : Avoids reserved m.repr := by
    intro c hc
    rw [Nat.repr, String.toList_ofList] at hc
    exact not_mem_reserved_of_mem_toDigits (by decide) hc
  cases n with
  | ofNat m => exact hnat m
  | negSucc m =>
    have hsign : Avoids reserved "-" := by decide
    exact hsign.append (hnat m.succ)

end BroadcastGuide.Text
