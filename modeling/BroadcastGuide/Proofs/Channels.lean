import BroadcastGuide.Channels
import BroadcastGuide.Proofs.Numeral.Literal
import BroadcastGuide.Proofs.Text.Unicode
import Mathlib.Data.List.Nodup

/-! The table of identifiers is what its lines say: the last line with an entry of a service counts,
in whatever way the service is spelled, and all other lines change nothing. -/

namespace BroadcastGuide.Channels

open Text (strip firstWord AreBlank IsWord IsTrimmed HasParts)
open Numeral (IsLiteral IsReadable IsWritable literal?)

/-! ### Lines -/

/-- A line that is no comment gives a service its name: a number of some kind, white space and the
name. -/
def Gives (IsNumber : List Char → Int → Prop) (line : List Char) (service : Int)
    (name : List Char) : Prop :=
  ∃ key, HasParts line key name ∧ key.head? ≠ some '#' ∧ IsNumber key service

/-- The last of the lines that give a service a name gives it this one. -/
def LastGives (IsNumber : List Char → Int → Prop) (lines : List (List Char)) (service : Int)
    (name : List Char) : Prop :=
  ∃ before line after, lines = before ++ line :: after ∧ Gives IsNumber line service name ∧
    ∀ later ∈ after, ∀ other, ¬ Gives IsNumber later service other

/-- A line that gives no name: blank, a comment, a word alone, or a first word that is not read as a
number. -/
inductive IsIdle : List Char → Prop
  | blank {line : List Char} (h : AreBlank line) : IsIdle line
  | comment {ahead : List Char} (h : AreBlank ahead) (rest : List Char) :
      IsIdle (ahead ++ '#' :: rest)
  | bare {ahead word behind : List Char} (hahead : AreBlank ahead) (hword : IsWord word)
      (hbehind : AreBlank behind) : IsIdle (ahead ++ word ++ behind)
  | unnumbered {line key name : List Char} (h : HasParts line key name)
      (unread : ∀ service, ¬ IsReadable key service) : IsIdle line

theorem identLine?_eq (line : List Char) :
    identLine? line =
      if (strip line).head? = some '#' ∨ (firstWord (strip line)).2 = [] then none
      else (literal? (firstWord (strip line)).1).map fun service =>
        (service, String.ofList (strip (firstWord (strip line)).2)) := by
  unfold identLine?
  split
  · rename_i hnil
    rw [hnil]
    rfl
  · rename_i hcomment
    rw [hcomment]
    exact (if_pos (Or.inl rfl)).symm
  · rename_i hcomment
    have hhead : (strip line).head? ≠ some '#' := by
      intro hhead
      obtain ⟨rest, hrest⟩ := List.head?_eq_some_iff.mp hhead
      exact hcomment rest hrest
    simp only [hhead, false_or, List.isEmpty_iff]

/-- A line has the entry that it gives. -/
theorem identLine?_eq_some_iff {line : List Char} {service : Int} {name : String} :
    identLine? line = some (service, name) ↔ Gives IsReadable line service name.toList := by
  rw [identLine?_eq]
  constructor
  · intro h
    split at h
    · cases h
    · rename_i hentry
      obtain ⟨hhead, hname⟩ := not_or.mp hentry
      obtain ⟨_, hkey, hsame⟩ := Option.map_eq_some_iff.mp h
      cases hsame
      have hparts := Text.hasParts_firstWord hname
      rw [String.toList_ofList, Text.strip_of_isTrimmed hparts.isTrimmed]
      exact ⟨_, hparts, by rwa [Text.head?_firstWord_strip],
        (Numeral.literal?_eq_some_iff hparts.isWord.not_blank).mp hkey⟩
  · rintro ⟨key, hparts, hhead, hkey⟩
    obtain ⟨hcut, hname⟩ := Text.hasParts_iff.mp hparts
    have hread := (Numeral.literal?_eq_some_iff hparts.isWord.not_blank).mpr hkey
    rw [← Text.head?_firstWord_strip, hcut, if_neg (not_or.mpr ⟨hhead, hname⟩), hread,
      Option.map_some, Text.strip_of_isTrimmed hparts.isTrimmed, String.ofList_toList]

/-- The lines without an entry are the idle ones. -/
theorem identLine?_eq_none_iff {line : List Char} : identLine? line = none ↔ IsIdle line := by
  rw [identLine?_eq]
  constructor
  · intro h
    obtain ⟨ahead, behind, hline, hahead, hbehind, htrimmed⟩ := Text.exists_strip line
    split at h
    · rename_i hidle
      rcases hidle with hhead | hname
      · obtain ⟨rest, hrest⟩ := List.head?_eq_some_iff.mp hhead
        rw [hline, hrest, List.append_assoc]
        exact .comment hahead (rest ++ behind)
      · by_cases hnil : strip line = []
        · rw [hnil, List.append_nil] at hline
          rw [hline]
          exact .blank fun c hc => (List.mem_append.mp hc).elim (hahead c) (hbehind c)
        · rw [hline]
          exact .bare hahead (Text.isWord_of_firstWord (htrimmed hnil) hname) hbehind
    · rename_i hentry
      have hparts := Text.hasParts_firstWord (not_or.mp hentry).2
      refine .unnumbered hparts fun service hservice => ?_
      rw [(Numeral.literal?_eq_some_iff hparts.isWord.not_blank).mpr hservice] at h
      cases h
  · intro h
    cases h with
    | blank hblank =>
      rw [Text.strip_of_areBlank hblank]
      exact if_pos (Or.inr rfl)
    | comment hahead rest =>
      exact if_pos (Or.inl (Text.head?_strip_append hahead (by decide) rest))
    | bare hahead hword hbehind =>
      rw [Text.strip_eq hahead hword.isTrimmed hbehind, Text.firstWord_of_word hword]
      exact if_pos (Or.inr rfl)
    | unnumbered hparts unread =>
      obtain ⟨hcut, _⟩ := Text.hasParts_iff.mp hparts
      rw [hcut]
      split
      · rfl
      · rw [Option.map_eq_none_iff, Option.eq_none_iff_forall_ne_some]
        exact fun service hread =>
          unread service ((Numeral.literal?_eq_some_iff hparts.isWord.not_blank).mp hread)

/-! ### The table -/

/-- An entry that is set stands ahead of all others. -/
theorem lookup_insert (table : Idents) (key : Int) (name : String) (service : Int) :
    (table.insert key name).lookup service = ((key, name) :: table).lookup service := by
  induction table with
  | nil => rfl
  | cons entry rest ih =>
    rw [Idents.insert]
    split
    · rfl
    · split
      · rename_i heq
        subst heq
        rw [List.lookup_cons, List.lookup_cons]
        split
        · rfl
        · rename_i hne
          rw [List.lookup_cons, hne]
      · rename_i hne
        rw [List.lookup_cons, ih, List.lookup_cons, List.lookup_cons, List.lookup_cons]
        grind

/-- Of entries that are set one after another the last one counts. -/
theorem lookup_foldl_insert (entries table : Idents) (service : Int) :
    (entries.foldl (fun table entry => table.insert entry.1 entry.2) table).lookup service =
      (entries.reverse ++ table).lookup service := by
  induction entries generalizing table with
  | nil => rfl
  | cons entry rest ih =>
    rw [List.foldl_cons, ih, List.lookup_append, lookup_insert, ← List.lookup_append,
      List.reverse_cons, List.append_assoc, List.singleton_append]

/-- The name in the table is the one that the last line with an entry gives. -/
theorem lookup_parseIdents {lines : List (List Char)} {service : Int} {name : String} :
    (parseIdents lines).lookup service = some name ↔
      LastGives IsReadable lines service name.toList := by
  rw [parseIdents, lookup_foldl_insert, List.append_nil, List.lookup_eq_some_iff]
  constructor
  · rintro ⟨last, first, hentries, hlast⟩
    have hordered := congrArg List.reverse hentries
    rw [List.reverse_reverse, List.reverse_append, List.reverse_cons, List.append_assoc,
      List.singleton_append] at hordered
    obtain ⟨before, rest, rfl, _, hrest⟩ := List.filterMap_eq_append_iff.mp hordered
    obtain ⟨idle, line, after, rfl, _, hline, hafter⟩ := List.filterMap_eq_cons_iff.mp hrest
    refine ⟨before ++ idle, line, after, (List.append_assoc _ _ _).symm,
      identLine?_eq_some_iff.mp hline, fun later hlater other hother => ?_⟩
    have hentry : identLine? later = some (service, String.ofList other) :=
      identLine?_eq_some_iff.mpr (by rwa [String.toList_ofList])
    have hmem : (service, String.ofList other) ∈ last := by
      rw [← List.mem_reverse, ← hafter]
      exact List.mem_filterMap.mpr ⟨later, hlater, hentry⟩
    exact absurd rfl (bne_iff_ne.mp (hlast _ hmem))
  · rintro ⟨before, line, after, rfl, hline, hafter⟩
    refine ⟨(after.filterMap identLine?).reverse, (before.filterMap identLine?).reverse, ?_,
      fun entry hentry => bne_iff_ne.mpr ?_⟩
    · rw [List.filterMap_append, List.filterMap_cons, identLine?_eq_some_iff.mpr hline,
        List.reverse_append, List.reverse_cons, List.append_assoc, List.singleton_append]
    · obtain ⟨later, hlater, hread⟩ := List.mem_filterMap.mp (List.mem_reverse.mp hentry)
      rintro rfl
      exact hafter later hlater _ (identLine?_eq_some_iff.mp hread)

/-- A new entry is added and the others stay. -/
theorem insert_perm {table : Idents} {key : Int} (fresh : key ∉ table.map Prod.fst)
    (name : String) : (table.insert key name).Perm ((key, name) :: table) := by
  induction table with
  | nil => exact .refl _
  | cons entry rest ih =>
    obtain ⟨hne, hfresh⟩ := not_or.mp (List.mem_cons.not.mp fresh)
    rw [Idents.insert]
    split
    · exact .refl _
    · exact ((ih hfresh).cons entry).trans (.swap ..)

/-- Entries of different services are all kept. -/
theorem foldl_insert_perm {entries table : Idents}
    (distinct : ((entries ++ table).map Prod.fst).Nodup) :
    (entries.foldl (fun table entry => table.insert entry.1 entry.2) table).Perm
      (entries ++ table) := by
  induction entries generalizing table with
  | nil => exact .refl _
  | cons entry rest ih =>
    rw [List.cons_append, List.map_cons, List.nodup_cons, List.map_append, List.mem_append,
      not_or] at distinct
    obtain ⟨⟨hrest, htable⟩, hdistinct⟩ := distinct
    have hinsert := insert_perm htable entry.2
    have hmoved : (rest ++ table.insert entry.1 entry.2).Perm (entry :: (rest ++ table)) :=
      (hinsert.append_left rest).trans List.perm_middle
    refine (ih ?_).trans hmoved
    rw [(hmoved.map Prod.fst).nodup_iff, List.map_cons, List.nodup_cons, List.map_append,
      List.mem_append, not_or]
    exact ⟨⟨hrest, htable⟩, hdistinct⟩

/-! ### Tables that are written -/

def entryLine (entry : Int × String) : List Char :=
  (toString entry.1).toList ++ ' ' :: entry.2.toList

/-- Lines list entries: each entry has a line, and idle lines may stand anywhere. -/
inductive Lists : List (List Char) → Idents → Prop
  | nil : Lists [] []
  | entry (entry : Int × String) {lines : List (List Char)} {entries : Idents}
      (rest : Lists lines entries) : Lists (entryLine entry :: lines) (entry :: entries)
  | idle {line : List Char} {lines : List (List Char)} {entries : Idents} (idle : IsIdle line)
      (rest : Lists lines entries) : Lists (line :: lines) entries

/-- A service that can be written in decimal, and a name without white space around it. -/
structure IsAlias (entry : Int × String) : Prop where
  isWritable : IsWritable entry.1
  isTrimmed : IsTrimmed entry.2.toList

theorem hasParts_entryLine {entry : Int × String} (h : IsTrimmed entry.2.toList) :
    HasParts (entryLine entry) (toString entry.1).toList entry.2.toList :=
  Text.hasParts_spaced (Numeral.isWord_toString entry.1) h

/-- The line of an entry gives the entry. -/
theorem identLine?_entryLine {entry : Int × String} (h : IsAlias entry) :
    identLine? (entryLine entry) = some entry := by
  have hread := Numeral.isReadable_toString h.isWritable
  exact identLine?_eq_some_iff.mpr ⟨_, hasParts_entryLine h.isTrimmed, hread.head?_ne, hread⟩

/-- A service of more digits than are read has no line. -/
theorem isIdle_entryLine {service : Nat} (long : ¬ IsWritable service) {name : String}
    (h : IsTrimmed name.toList) : IsIdle (entryLine (service, name)) := by
  obtain ⟨ds, hds, _, hlength, _⟩ := Numeral.exists_digits service
  have hlong : Numeral.maxDecimalDigits < ds.length := by
    rw [hlength]
    exact Nat.not_le.mp long
  rw [← Numeral.toList_toString_ofNat] at hds
  exact .unnumbered (hasParts_entryLine h) (Numeral.not_isReadable_of_long hds hlong)

theorem Lists.filterMap_eq {lines : List (List Char)} {entries : Idents} (h : Lists lines entries)
    (haliases : ∀ entry ∈ entries, IsAlias entry) : lines.filterMap identLine? = entries := by
  induction h with
  | nil => rfl
  | entry entry _ ih =>
    rw [List.filterMap_cons, identLine?_entryLine (haliases entry List.mem_cons_self),
      ih fun other hother => haliases other (List.mem_cons_of_mem _ hother)]
  | idle hidle _ ih => rw [List.filterMap_cons, identLine?_eq_none_iff.mpr hidle, ih haliases]

theorem lookup_of_mem {table : Idents} (distinct : (table.map Prod.fst).Nodup)
    {entry : Int × String} (h : entry ∈ table) : table.lookup entry.1 = some entry.2 := by
  obtain ⟨ahead, behind, rfl⟩ := List.append_of_mem h
  refine List.lookup_eq_some_iff.mpr ⟨ahead, behind, rfl, fun other hother => bne_iff_ne.mpr ?_⟩
  rw [List.map_append, List.map_cons, List.nodup_middle, List.nodup_cons, List.mem_append,
    not_or] at distinct
  rintro heq
  exact distinct.1.1 (heq ▸ List.mem_map_of_mem hother)

theorem ident_of_mem {table : Idents} (distinct : (table.map Prod.fst).Nodup)
    {entry : Int × String} (h : entry ∈ table) (halias : IsAlias entry) :
    ident table entry.1 = entry.2 := by
  have hname : ¬ entry.2.isEmpty := by
    rw [String.isEmpty_iff]
    intro hnil
    exact halias.isTrimmed.ne_nil (by rw [hnil]; rfl)
  rw [ident, lookup_of_mem distinct h]
  exact if_neg hname

theorem ident_of_not_mem {table : Idents} {service : Int} (h : service ∉ table.map Prod.fst) :
    ident table service = standardIdent service := by
  have hnone : table.lookup service = none :=
    List.lookup_eq_none_iff.mpr fun entry hentry => bne_iff_ne.mpr fun heq =>
      h (heq ▸ List.mem_map_of_mem hentry)
  rw [ident, hnone]

/-- A table whose entries are listed in any order is read back, and names its services and no
others. -/
theorem parseIdents_of_lists {lines : List (List Char)} {entries table : Idents}
    (h : Lists lines entries) (reordered : entries.Perm table)
    (distinct : (table.map Prod.fst).Nodup) (haliases : ∀ entry ∈ table, IsAlias entry) :
    (parseIdents lines).Perm table ∧
      (∀ entry ∈ table, ident (parseIdents lines) entry.1 = entry.2) ∧
      ∀ service ∉ table.map Prod.fst,
        ident (parseIdents lines) service = standardIdent service := by
  have hentries := h.filterMap_eq fun entry hentry => haliases entry (reordered.mem_iff.mp hentry)
  have hread : (parseIdents lines).Perm table := by
    have hkept : ((entries ++ []).map Prod.fst).Nodup := by
      rwa [List.append_nil, (reordered.map Prod.fst).nodup_iff]
    have hset := foldl_insert_perm hkept
    rw [List.append_nil] at hset
    rw [parseIdents, hentries]
    exact hset.trans reordered
  have hkeys := hread.map Prod.fst
  refine ⟨hread, fun entry hentry => ?_, fun service hservice => ?_⟩
  · exact ident_of_mem (hkeys.nodup_iff.mpr distinct) (hread.mem_iff.mpr hentry)
      (haliases entry hentry)
  · exact ident_of_not_mem (hkeys.mem_iff.not.mpr hservice)

/-! ### Lines of a file -/

/-- A line without a line end inside. -/
def IsUnbroken (line : List Char) : Prop := ∀ c ∈ line, c ≠ '\r' ∧ c ≠ '\n'

instance (line : List Char) : Decidable (IsUnbroken line) :=
  List.decidableBAll (fun c => c ≠ '\r' ∧ c ≠ '\n') line

theorem linesFrom_line {line : List Char} (h : IsUnbroken line) (pending rest : List Char) :
    linesFrom pending (line ++ '\n' :: rest) =
      (pending.reverse ++ line ++ ['\n']) :: linesFrom [] rest := by
  induction line generalizing pending with
  | nil => rw [List.nil_append, linesFrom, List.reverse_cons, List.append_nil]
  | cons c line ih =>
    obtain ⟨⟨hreturn, hfeed⟩, hline⟩ := List.forall_mem_cons.mp h
    have hstep : linesFrom pending (c :: (line ++ '\n' :: rest)) =
        linesFrom (c :: pending) (line ++ '\n' :: rest) := by
      rw [linesFrom]
      all_goals simp_all
    rw [List.cons_append, hstep, ih hline, List.reverse_cons, List.append_assoc pending.reverse,
      List.singleton_append]

/-- A file has the lines that were written to it. -/
theorem fileLines_encode {lines : List (List Char)} (h : ∀ line ∈ lines, IsUnbroken line) :
    fileLines (Text.Utf8.encode (lines.flatMap (· ++ ['\n']))) = lines.map (· ++ ['\n']) := by
  rw [fileLines, Text.Utf8.decode_encode]
  induction lines with
  | nil => rfl
  | cons line lines ih =>
    obtain ⟨hline, hlines⟩ := List.forall_mem_cons.mp h
    rw [List.flatMap_cons, List.append_assoc, List.singleton_append, linesFrom_line hline,
      ih hlines, List.map_cons, List.reverse_nil, List.nil_append]

/-- The line end makes no difference to the entry. -/
theorem identLine?_append (line : List Char) : identLine? (line ++ ['\n']) = identLine? line := by
  have hblank : AreBlank ['\n'] := fun c hc => by rw [List.mem_singleton.mp hc]; decide
  rw [identLine?_eq, identLine?_eq, Text.strip_append hblank]

/-- The table of a file is the table of its lines. -/
theorem parseIdents_fileLines {lines : List (List Char)} (h : ∀ line ∈ lines, IsUnbroken line) :
    parseIdents (fileLines (Text.Utf8.encode (lines.flatMap (· ++ ['\n'])))) =
      parseIdents lines := by
  have hlines : (lines.map (· ++ ['\n'])).filterMap identLine? = lines.filterMap identLine? := by
    rw [List.filterMap_map]
    exact List.filterMap_congr fun line _ => identLine?_append line
  rw [fileLines_encode h, parseIdents, hlines, parseIdents]

/-- What the table of any lines is: the last line with an entry counts, also in a file. So a table
is read back from its lines in any order, whatever idle lines stand between them. -/
theorem parseIdents_lastEntry :
    (∀ (lines : List (List Char)) (service : Int) (name : String),
      (parseIdents lines).lookup service = some name ↔
        LastGives IsReadable lines service name.toList) ∧
    (∀ {lines : List (List Char)}, (∀ line ∈ lines, IsUnbroken line) →
      parseIdents (fileLines (Text.Utf8.encode (lines.flatMap (· ++ ['\n'])))) =
        parseIdents lines) ∧
    ∀ {lines : List (List Char)} {entries table : Idents}, Lists lines entries →
      entries.Perm table → (table.map Prod.fst).Nodup → (∀ entry ∈ table, IsAlias entry) →
      (parseIdents lines).Perm table ∧
        (∀ entry ∈ table, ident (parseIdents lines) entry.1 = entry.2) ∧
        ∀ service ∉ table.map Prod.fst,
          ident (parseIdents lines) service = toString service ++ ".dvb.guide" :=
  ⟨fun _ _ _ => lookup_parseIdents, parseIdents_fileLines, parseIdents_of_lists⟩

/-- Two services, listed in the other order between lines of the four idle kinds. -/
theorem parseIdents_lastEntry_idleLines :
    let lines := ["# names".toList, entryLine (20, "two.example"), " \t".toList, "30".toList,
      "x7 seven".toList, entryLine (10, "one example")]
    parseIdents (fileLines (Text.Utf8.encode (lines.flatMap (· ++ ['\n'])))) = parseIdents lines ∧
      (parseIdents lines).Perm [(10, "one example"), (20, "two.example")] ∧
      ident (parseIdents lines) 10 = "one example" ∧
      ident (parseIdents lines) 30 = "30.dvb.guide" := by
  intro lines
  obtain ⟨_, hfile, htable⟩ := parseIdents_lastEntry
  have hlists : Lists lines [(20, "two.example"), (10, "one example")] :=
    .idle (identLine?_eq_none_iff.mp (by decide)) <| .entry _ <|
      .idle (identLine?_eq_none_iff.mp (by decide)) <|
      .idle (identLine?_eq_none_iff.mp (by decide)) <|
      .idle (identLine?_eq_none_iff.mp (by decide)) <| .entry _ .nil
  have haliases : ∀ entry ∈ [((10 : Int), "one example"), (20, "two.example")], IsAlias entry := by
    intro entry hentry
    rcases List.mem_pair.mp hentry with rfl | rfl <;>
      exact ⟨by decide, Text.isTrimmed_iff.mpr (by decide)⟩
  have hunbroken : ∀ line ∈ lines, IsUnbroken line := by decide
  obtain ⟨hread, hnamed, hothers⟩ := htable hlists (.swap ..) (by decide) haliases
  exact ⟨hfile hunbroken, hread, hnamed _ List.mem_cons_self, hothers 30 (by decide)⟩

/-- Any number of zeros is a literal of zero, but with too many of them it is not read, and the line
above keeps its service. Nor is there a line for a service of so many digits. -/
theorem parseIdents_tooManyDigits :
    let lines := ["0x0 a".toList, List.replicate 4301 '0' ++ ' ' :: "b".toList]
    LastGives IsLiteral lines 0 "b".toList ∧ (parseIdents lines).lookup 0 = some "a" ∧
      ∃ service : Int, 0 ≤ service ∧ parseIdents [entryLine (service, "b")] = [] := by
  intro lines
  have hname : IsTrimmed "b".toList := Text.isTrimmed_iff.mpr (by decide)
  have hword : IsWord (List.replicate 4301 '0') :=
    ⟨List.cons_ne_nil _ _, fun c hc => by rw [List.eq_of_mem_replicate hc]; decide⟩
  have hzeros := Text.hasParts_spaced hword hname
  have hunread : ∀ service, ¬ IsReadable (List.replicate 4301 '0') service :=
    Numeral.not_isReadable_of_long (Numeral.digits_zeros 4300)
      (by rw [List.length_replicate]; decide)
  have hidle : IsIdle (List.replicate 4301 '0' ++ ' ' :: "b".toList) := .unnumbered hzeros hunread
  refine ⟨?_, ?_, ?_⟩
  · refine ⟨["0x0 a".toList], _, [], rfl, ⟨_, hzeros, ?_, Numeral.isLiteral_zeros 4300⟩, ?_⟩
    · exact fun hhead => absurd (Option.some.inj hhead) (by decide)
    · exact fun later hlater => absurd hlater List.not_mem_nil
  · refine lookup_parseIdents.mpr ⟨[], _, _, rfl, identLine?_eq_some_iff.mp (by decide), ?_⟩
    intro later hlater other hother
    rw [List.mem_singleton.mp hlater, ← String.toList_ofList (l := other),
      ← identLine?_eq_some_iff, identLine?_eq_none_iff.mpr hidle] at hother
    cases hother
  · obtain ⟨service, hlong⟩ := Numeral.exists_not_isWritable
    refine ⟨service, Int.natCast_nonneg service, ?_⟩
    rw [parseIdents, List.filterMap_cons, identLine?_eq_none_iff.mpr (isIdle_entryLine hlong hname)]
    rfl

end BroadcastGuide.Channels
