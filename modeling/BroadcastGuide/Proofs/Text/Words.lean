import BroadcastGuide.Text.Blank
import Mathlib.Data.List.Basic
import Mathlib.Data.List.TakeWhile

/-! A line as its first word and what follows it, with white space ahead of them, between them and
behind them. Stripping and cutting a line gives these two parts. -/

namespace BroadcastGuide.Text

def AreBlank (s : List Char) : Prop := ∀ c ∈ s, isBlank c = true

structure IsWord (s : List Char) : Prop where
  ne_nil : s ≠ []
  not_blank : ∀ c ∈ s, isBlank c = false

structure IsTrimmed (s : List Char) : Prop where
  ne_nil : s ≠ []
  first : ∀ c, s.head? = some c → isBlank c = false
  last : ∀ c, s.getLast? = some c → isBlank c = false

theorem IsWord.isTrimmed {s : List Char} (h : IsWord s) : IsTrimmed s where
  ne_nil := h.ne_nil
  first := fun c hc => h.not_blank c (List.mem_of_mem_head? hc)
  last := fun c hc => h.not_blank c (List.mem_of_mem_getLast? hc)

/-- A line holds a word and, after white space, a text that follows it. -/
structure HasParts (line word text : List Char) : Prop where
  isWord : IsWord word
  isTrimmed : IsTrimmed text
  exists_blanks : ∃ ahead gap behind, line = ahead ++ (word ++ (gap ++ text)) ++ behind ∧
    AreBlank ahead ∧ AreBlank gap ∧ gap ≠ [] ∧ AreBlank behind

theorem dropWhile_of_first {drop : Char → Bool} {s : List Char}
    (h : ∀ c, s.head? = some c → drop c = false) : s.dropWhile drop = s := by
  cases s with
  | nil => rfl
  | cons c rest => rw [List.dropWhile_cons, if_neg (by simp [h c rfl])]

theorem first_dropWhile (drop : Char → Bool) (s : List Char) :
    ∀ c, (s.dropWhile drop).head? = some c → drop c = false := by
  intro c hc
  have hstops := List.head?_dropWhile_not drop s
  rw [hc] at hstops
  exact hstops

theorem areBlank_takeWhile (s : List Char) : AreBlank (s.takeWhile isBlank) :=
  fun _ => List.mem_takeWhile_imp

/-- White space goes, and a trimmed text stays. -/
theorem strip_eq {ahead s behind : List Char} (hahead : AreBlank ahead) (hs : IsTrimmed s)
    (hbehind : AreBlank behind) : strip (ahead ++ s ++ behind) = s := by
  have hfirst : ∀ c, (s ++ behind).head? = some c → isBlank c = false := by
    rw [List.head?_append_of_ne_nil _ hs.ne_nil]
    exact hs.first
  have hlast : ∀ c, s.reverse.head? = some c → isBlank c = false := by
    rw [List.head?_reverse]
    exact hs.last
  rw [strip, trimWhile, List.append_assoc, List.dropWhile_append_of_pos hahead,
    dropWhile_of_first hfirst, List.reverse_append,
    List.dropWhile_append_of_pos fun c hc => hbehind c (List.mem_reverse.mp hc),
    dropWhile_of_first hlast, List.reverse_reverse]

/-- Stripping takes white space and nothing else, and all of it. -/
theorem exists_strip (s : List Char) : ∃ ahead behind, s = ahead ++ strip s ++ behind ∧
    AreBlank ahead ∧ AreBlank behind ∧ (strip s ≠ [] → IsTrimmed (strip s)) := by
  have hbody : s.dropWhile isBlank =
      strip s ++ ((s.dropWhile isBlank).reverse.takeWhile isBlank).reverse := by
    rw [strip, trimWhile, ← List.reverse_append, List.takeWhile_append_dropWhile,
      List.reverse_reverse]
  refine ⟨s.takeWhile isBlank, ((s.dropWhile isBlank).reverse.takeWhile isBlank).reverse, ?_,
    areBlank_takeWhile s, fun c hc => areBlank_takeWhile _ c (List.mem_reverse.mp hc),
    fun hne => ⟨hne, ?_, ?_⟩⟩
  · rw [List.append_assoc, ← hbody, List.takeWhile_append_dropWhile]
  · have hfirst := first_dropWhile isBlank s
    rwa [hbody, List.head?_append_of_ne_nil _ hne] at hfirst
  · rw [strip, trimWhile, List.getLast?_reverse]
    exact first_dropWhile isBlank _

theorem takeWhile_of_word {word : List Char} (h : IsWord word) {c : Char} (hc : isBlank c = true)
    (rest : List Char) : (word ++ c :: rest).takeWhile (!isBlank ·) = word := by
  rw [List.takeWhile_append_of_pos fun d hd => by simp [h.not_blank d hd], List.takeWhile_cons,
    if_neg (by simp [hc]), List.append_nil]

theorem dropWhile_of_word {word : List Char} (h : IsWord word) {c : Char} (hc : isBlank c = true)
    (rest : List Char) : (word ++ c :: rest).dropWhile (!isBlank ·) = c :: rest := by
  rw [List.dropWhile_append_of_pos fun d hd => by simp [h.not_blank d hd], List.dropWhile_cons,
    if_neg (by simp [hc])]

/-- A word, white space and a text: what is cut off as the first word, and what is left. -/
theorem firstWord_eq {word gap text : List Char} (hword : IsWord word) (hgap : AreBlank gap)
    (some_gap : gap ≠ []) (htext : IsTrimmed text) :
    firstWord (word ++ (gap ++ text)) = (word, text) := by
  obtain ⟨c, gap, rfl⟩ := List.exists_cons_of_ne_nil some_gap
  have hc : isBlank c = true := hgap c List.mem_cons_self
  have hfirst : ∀ d, (word ++ (c :: gap ++ text)).head? = some d → isBlank d = false := by
    rw [List.head?_append_of_ne_nil _ hword.ne_nil]
    exact fun d hd => hword.not_blank d (List.mem_of_mem_head? hd)
  rw [firstWord, dropWhile_of_first hfirst, List.cons_append, takeWhile_of_word hword hc,
    dropWhile_of_word hword hc, ← List.cons_append, List.dropWhile_append_of_pos hgap,
    dropWhile_of_first htext.first]

theorem isTrimmed_of_word {word text : List Char} (hword : IsWord word) (gap : List Char)
    (htext : IsTrimmed text) : IsTrimmed (word ++ (gap ++ text)) := by
  refine ⟨by simp [hword.ne_nil], ?_, ?_⟩
  · rw [List.head?_append_of_ne_nil _ hword.ne_nil]
    exact fun c hc => hword.not_blank c (List.mem_of_mem_head? hc)
  · rw [← List.append_assoc, List.getLast?_append_of_ne_nil _ htext.ne_nil]
    exact htext.last

/-- What a trimmed text is cut into. -/
theorem exists_gap {s : List Char} (h : IsTrimmed s) (some_text : (firstWord s).2 ≠ []) :
    IsWord (firstWord s).1 ∧ IsTrimmed (firstWord s).2 ∧
      ∃ gap, s = (firstWord s).1 ++ (gap ++ (firstWord s).2) ∧ AreBlank gap ∧ gap ≠ [] := by
  obtain ⟨behind, hbehind⟩ : ∃ behind, behind = s.dropWhile (!isBlank ·) := ⟨_, rfl⟩
  have hcut : firstWord s = (s.takeWhile (!isBlank ·), behind.dropWhile isBlank) := by
    rw [firstWord, dropWhile_of_first h.first, hbehind]
  rw [hcut] at some_text ⊢
  have hsplit : s = s.takeWhile (!isBlank ·) ++
      (behind.takeWhile isBlank ++ behind.dropWhile isBlank) := by
    rw [List.takeWhile_append_dropWhile, hbehind, List.takeWhile_append_dropWhile]
  refine ⟨⟨?_, fun d hd => ?_⟩, ⟨some_text, first_dropWhile isBlank _, ?_⟩, _, hsplit,
    areBlank_takeWhile _, ?_⟩
  · obtain ⟨c, rest, rfl⟩ := List.exists_cons_of_ne_nil h.ne_nil
    rw [List.takeWhile_cons, if_pos (by simp [h.first c rfl])]
    exact List.cons_ne_nil _ _
  · simpa using List.mem_takeWhile_imp hd
  · have hlast := h.last
    rwa [hsplit, List.getLast?_append_of_ne_nil _
        (List.append_ne_nil_of_right_ne_nil _ some_text),
      List.getLast?_append_of_ne_nil _ some_text] at hlast
  · -- the word ends at white space, since something follows it
    cases behind with
    | nil => exact absurd rfl some_text
    | cons d rest =>
      have hd : isBlank d = true := by
        simpa using first_dropWhile (!isBlank ·) s d (by rw [← hbehind, List.head?_cons])
      rw [List.takeWhile_cons, if_pos hd]
      exact List.cons_ne_nil _ _

/-- A line has two parts exactly if they are what is cut from the stripped line. -/
theorem hasParts_iff {line word text : List Char} :
    HasParts line word text ↔ firstWord (strip line) = (word, text) ∧ text ≠ [] := by
  constructor
  · rintro ⟨hword, htext, ahead, gap, behind, rfl, hahead, hgap, some_gap, hbehind⟩
    rw [strip_eq hahead (isTrimmed_of_word hword gap htext) hbehind]
    exact ⟨firstWord_eq hword hgap some_gap htext, htext.ne_nil⟩
  · rintro ⟨hcut, some_text⟩
    obtain ⟨ahead, behind, hline, hahead, hbehind, htrimmed⟩ := exists_strip line
    have hne : strip line ≠ [] := by
      intro hnil
      rw [hnil] at hcut
      exact some_text (Prod.ext_iff.mp hcut).2.symm
    have hsplit := exists_gap (htrimmed hne) (by rwa [hcut])
    rw [hcut] at hsplit
    obtain ⟨hword, htext, gap, hstripped, hgap, some_gap⟩ := hsplit
    rw [hstripped] at hline
    exact ⟨hword, htext, ahead, gap, behind, hline, hahead, hgap, some_gap, hbehind⟩

theorem hasParts_firstWord {line : List Char} (some_text : (firstWord (strip line)).2 ≠ []) :
    HasParts line (firstWord (strip line)).1 (firstWord (strip line)).2 :=
  hasParts_iff.mpr ⟨rfl, some_text⟩

/-- A word, one space and a text. -/
theorem hasParts_spaced {word text : List Char} (hword : IsWord word) (htext : IsTrimmed text) :
    HasParts (word ++ ' ' :: text) word text := by
  have hblank : AreBlank [] := fun c hc => absurd hc List.not_mem_nil
  have hgap : AreBlank [' '] := fun c hc => by rw [List.mem_singleton.mp hc]; decide
  refine ⟨hword, htext, [], [' '], [], ?_, hblank, hgap, List.cons_ne_nil _ _, hblank⟩
  rw [List.append_nil]
  rfl

/-- White space behind a text goes with the rest. -/
theorem strip_append {behind : List Char} (h : AreBlank behind) (s : List Char) :
    strip (s ++ behind) = strip s := by
  rw [strip, strip, trimWhile, trimWhile, List.dropWhile_append]
  split
  · rename_i hnone
    rw [List.isEmpty_iff.mp hnone, List.dropWhile_eq_nil_iff.mpr h]
  · rw [List.reverse_append,
      List.dropWhile_append_of_pos fun c hc => h c (List.mem_reverse.mp hc)]

theorem strip_of_areBlank {s : List Char} (h : AreBlank s) : strip s = [] := by
  rw [← List.nil_append s, strip_append h]
  rfl

theorem strip_of_isTrimmed {s : List Char} (h : IsTrimmed s) : strip s = s := by
  have hblank : AreBlank [] := fun c hc => absurd hc List.not_mem_nil
  simpa only [List.nil_append, List.append_nil] using strip_eq hblank h hblank

/-- A text is trimmed if stripping leaves it as it is. -/
theorem isTrimmed_iff {s : List Char} : IsTrimmed s ↔ s ≠ [] ∧ strip s = s := by
  refine ⟨fun h => ⟨h.ne_nil, strip_of_isTrimmed h⟩, fun ⟨hne, hstrip⟩ => ?_⟩
  obtain ⟨_, _, _, _, _, htrimmed⟩ := exists_strip s
  rw [hstrip] at htrimmed
  exact htrimmed hne

/-- The first character that is no white space stays the first. -/
theorem head?_strip_append {ahead : List Char} (hahead : AreBlank ahead) {c : Char}
    (hc : isBlank c = false) (rest : List Char) : (strip (ahead ++ c :: rest)).head? = some c := by
  have hfirst (more : List Char) : (c :: more).dropWhile isBlank = c :: more := by
    rw [List.dropWhile_cons, if_neg (by simp [hc])]
  rw [strip, trimWhile, List.dropWhile_append_of_pos hahead, hfirst, List.reverse_cons,
    List.dropWhile_append]
  split
  · rw [hfirst]
    rfl
  · rw [List.reverse_append]
    rfl

/-- A word alone has nothing behind it. -/
theorem firstWord_of_word {word : List Char} (h : IsWord word) : firstWord word = (word, []) := by
  have hall : ∀ c ∈ word, (!isBlank c) = true := fun c hc => by rw [h.not_blank c hc]; rfl
  rw [firstWord, dropWhile_of_first h.isTrimmed.first, List.takeWhile_eq_self_iff.mpr hall,
    List.dropWhile_eq_nil_iff.mpr hall]
  rfl

/-- A trimmed text without a second part is one word. -/
theorem isWord_of_firstWord {s : List Char} (h : IsTrimmed s) (hnone : (firstWord s).2 = []) :
    IsWord s := by
  have hbehind : AreBlank (s.dropWhile (!isBlank ·)) := by
    rw [firstWord, dropWhile_of_first h.first] at hnone
    exact List.dropWhile_eq_nil_iff.mp hnone
  have hall : s.dropWhile (!isBlank ·) = [] := by
    by_contra hsome
    -- what is behind the first word ends where the text ends
    have hlast := h.last
    rw [← List.takeWhile_append_dropWhile (p := (!isBlank ·)) (l := s),
      List.getLast?_append_of_ne_nil _ hsome, List.getLast?_eq_some_getLast hsome] at hlast
    have hblank := hbehind _ (List.getLast_mem hsome)
    rw [hlast _ rfl] at hblank
    cases hblank
  exact ⟨h.ne_nil, fun c hc => by simpa using List.dropWhile_eq_nil_iff.mp hall c hc⟩

/-- A stripped text begins as its first word does. -/
theorem head?_firstWord_strip (s : List Char) :
    (firstWord (strip s)).1.head? = (strip s).head? := by
  obtain ⟨_, _, _, _, _, htrimmed⟩ := exists_strip s
  cases hs : strip s with
  | nil => rfl
  | cons c rest =>
    rw [hs] at htrimmed
    have hc : isBlank c = false := (htrimmed (List.cons_ne_nil c rest)).first c rfl
    rw [firstWord, List.dropWhile_cons, if_neg (by simp [hc]), List.takeWhile_cons,
      if_pos (by simp [hc]), List.head?_cons, List.head?_cons]

end BroadcastGuide.Text
