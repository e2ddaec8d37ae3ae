import BroadcastGuide.Proofs.Decoder
import BroadcastGuide.Proofs.Descriptor.Fields
import BroadcastGuide.Proofs.Text.XmlChar

/-! What normalizing a field gives and counts: the cleaned text in escaped form, from which it can
be had back, and one warning or one error for a field at most. A field that its codec refuses gives
no text and counts nowhere. -/

namespace BroadcastGuide

namespace Text

/-- What stands behind the ampersand of an entity of character data. -/
def entityTails : List (List Char) := [['a', 'm', 'p', ';'], ['l', 't', ';'], ['g', 't', ';']]

theorem escapeChar_ampersand {c : Char} {before after : List Char}
    (h : escapeChar c = before ++ '&' :: after) : after ∈ entityTails := by
  -- past the first character there is no ampersand
  have hfirst {entity : List Char} (hentity : '&' ∉ entity)
      (h : '&' :: entity = before ++ '&' :: after) : after = entity := by
    cases before with
    | nil => exact (List.cons.inj h).2.symm
    | cons b before =>
      refine absurd ?_ hentity
      rw [(List.cons.inj h).2]
      exact List.mem_append_right _ List.mem_cons_self
  unfold escapeChar at h
  split at h
  · rw [hfirst (by decide) h]
    decide
  · split at h
    · rw [hfirst (by decide) h]
      decide
    · split at h
      · rw [hfirst (by decide) h]
        decide
      · rename_i hc _ _
        have hmem : '&' ∈ [c] := h ▸ List.mem_append_right _ List.mem_cons_self
        exact absurd (List.mem_singleton.mp hmem).symm hc

namespace CodePoint

/-- A text without brackets in which every ampersand begins an entity. -/
structure IsEscaped (text : List CodePoint) : Prop where
  opening : .char '<' ∉ text
  closing : .char '>' ∉ text
  ampersand : ∀ before after, text = before ++ .char '&' :: after →
    ∃ tail ∈ entityTails, tail.map .char <+: after

/-- Undoes the entities of character data in one pass from the left. -/
def unescape : List CodePoint → List CodePoint
  | .char '&' :: .char 'a' :: .char 'm' :: .char 'p' :: .char ';' :: rest =>
    .char '&' :: unescape rest
  | .char '&' :: .char 'l' :: .char 't' :: .char ';' :: rest => .char '<' :: unescape rest
  | .char '&' :: .char 'g' :: .char 't' :: .char ';' :: rest => .char '>' :: unescape rest
  | p :: rest => p :: unescape rest
  | [] => []

theorem unescape_cons {p : CodePoint} (h : p ≠ .char '&') (rest : List CodePoint) :
    unescape (p :: rest) = p :: unescape rest := by
  rw [unescape] <;> simp_all

theorem unescape_escapeChar (c : Char) (rest : List CodePoint) :
    unescape ((escapeChar c).map .char ++ rest) = .char c :: unescape rest := by
  unfold escapeChar
  by_cases h₁ : c = '&'
  · simp [unescape, h₁]
  · by_cases h₂ : c = '<'
    · simp [unescape, h₂]
    · by_cases h₃ : c = '>'
      · simp [unescape, h₃]
      · have hne : CodePoint.char c ≠ .char '&' := fun h => h₁ (CodePoint.char.inj h)
        simp [unescape_cons hne, h₁, h₂, h₃]

/-- Undoing the entities gives the text back that was escaped. -/
theorem unescape_each_escapeChar (s : List CodePoint) : unescape (each escapeChar s) = s := by
  induction s with
  | nil => rfl
  | cons p rest ih =>
    rw [each, List.flatMap_cons]
    cases p with
    | char c => exact (unescape_escapeChar c _).trans (congrArg _ ih)
    | surrogate place =>
      have hne : surrogate place ≠ .char '&' := nofun
      exact (unescape_cons hne _).trans (congrArg _ ih)

theorem ampersand_each_escapeChar {s before after : List CodePoint}
    (h : each escapeChar s = before ++ .char '&' :: after) :
    ∃ tail ∈ entityTails, tail.map .char <+: after := by
  induction s generalizing before with
  | nil => simp [each] at h
  | cons p rest ih =>
    rw [each, List.flatMap_cons] at h
    rcases List.append_eq_append_iff.mp h with ⟨m, -, hm⟩ | ⟨m, hp, hm⟩
    · exact ih hm
    · cases m with
      | nil => exact @ih [] hm.symm
      | cons q m =>
        obtain ⟨rfl, rfl⟩ := List.cons.inj hm
        cases p with
        | char c =>
          obtain ⟨chars, behind, hc, -, hbehind⟩ := List.map_eq_append_iff.mp hp
          obtain ⟨d, tail, rfl, hd, rfl⟩ := List.map_eq_cons_iff.mp hbehind
          cases hd
          exact ⟨tail, escapeChar_ampersand hc, List.prefix_append _ _⟩
        | surrogate place =>
          have hmem : CodePoint.char '&' ∈ before ++ CodePoint.char '&' :: m :=
            List.mem_append_right _ List.mem_cons_self
          rw [← hp] at hmem
          cases List.mem_singleton.mp hmem

theorem isEscaped_each_escapeChar (s : List CodePoint) : IsEscaped (each escapeChar s) := by
  have hbracket : ∀ c ∈ brackets, .char c ∉ each escapeChar s := by
    intro c hc h
    rcases mem_each h with ⟨d, e, -, he, heq⟩ | ⟨place, hplace, -⟩
    · cases heq
      rcases mem_escapeChar he with hentity | ⟨rfl, hplain⟩
      · have hnone : ∀ b ∈ brackets, b ∉ entityChars := by simp [brackets, entityChars]
        exact hnone c hc hentity
      · exact hplain hc
    · cases hplace
  exact ⟨hbracket '<' (by decide), hbracket '>' (by decide), fun _ _ => ampersand_each_escapeChar⟩

end CodePoint

/-- A control character of the first set that is no tabulator and no line feed, or the delete
character. -/
def IsRemoved (c : Char) : Prop :=
  c.toNat ≤ 0x08 ∨ (0x0B ≤ c.toNat ∧ c.toNat ≤ 0x1F) ∨ c.toNat = 0x7F

instance : DecidablePred IsRemoved := fun _ => inferInstanceAs (Decidable (_ ∨ (_ ∧ _) ∨ _))

theorem fate_eq_forbidden_iff {c : Char} : fate c = .forbidden ↔ IsRemoved c := by
  unfold fate IsRemoved
  generalize hn : (if 0xE080 ≤ c.toNat ∧ c.toNat ≤ 0xE09F then c.toNat - 0xE000 else c.toNat) = n
  have hshift : c.toNat ≤ 0x08 ∨ (0x0B ≤ c.toNat ∧ c.toNat ≤ 0x1F) ∨ c.toNat = 0x7F ↔
      n ≤ 0x08 ∨ (0x0B ≤ n ∧ n ≤ 0x1F) ∨ n = 0x7F := by
    split at hn <;> omega
  rw [hshift]
  dsimp only
  split
  · exact ⟨nofun, fun h => by omega⟩
  · split
    · exact ⟨nofun, fun h => by omega⟩
    · split
      · rename_i h
        exact ⟨fun _ => h, fun _ => rfl⟩
      · rename_i h
        exact ⟨nofun, fun h' => absurd h' h⟩

/-- Whether a code point is one that is removed and earns a warning. -/
def CodePoint.isRemoved : CodePoint → Bool
  | char c => IsRemoved c
  | surrogate _ => false

theorem hasForbidden_shown (s : List CodePoint) :
    hasForbidden (s.map CodePoint.shown) = s.any CodePoint.isRemoved := by
  have hpoint (p : CodePoint) : (fate p.shown == .forbidden) = p.isRemoved := by
    cases p with
    | char c =>
      rw [Bool.eq_iff_iff, beq_iff_eq, CodePoint.isRemoved, decide_eq_true_iff,
        ← fate_eq_forbidden_iff]
      rfl
    | surrogate place => rfl
  rw [hasForbidden, List.any_map]
  exact congrArg s.any (funext hpoint)

/-! ### Fields in turn -/

namespace CodePoint

theorem map_shown_each {f : Char → List Char} (h : f malformed = [malformed])
    (s : List CodePoint) : (each f s).map shown = (s.map shown).flatMap f := by
  induction s with
  | nil => rfl
  | cons p rest ih =>
    rw [each, List.flatMap_cons, List.map_append, List.map_cons, List.flatMap_cons, ← ih]
    cases p with
    | char c =>
      rw [map_shown_char]
      rfl
    | surrogate place =>
      rw [shown, h]
      rfl

theorem map_shown_marked (s : List CodePoint) :
    (marked s).map shown = escapeChars (clean (s.map shown)) := by
  rw [marked, map_shown_each (by decide), map_shown_each (by decide), escapeChars, clean]

end CodePoint

namespace Normalizer

variable {registry : Registry} {n : Normalizer registry} {field : Octets}

theorem normalize_of_refused {fault : CodecFault} (h : n.codec.refusal? field = some fault) :
    ∃ cached, n.normalize field = (.error fault, { n with cached := cached }) := by
  obtain ⟨cached, hdecode⟩ := n.decode_eq field
  have hfield : n.codec.decodeField field = .error (.refused fault) := by
    unfold Codec.refusal? at h
    split at h
    · rename_i hfield
      cases h
      exact hfield
    · cases h
  exact ⟨cached, by rw [normalize, hdecode, hfield]⟩

/-- A field that is not refused gives and tallies what it does in the table of the codec. -/
theorem normalize_of_taken (h : n.codec.refusal? field = none) :
    ∃ cached text, n.normalize field = (.ok text,
        { n with
          cached := cached
          tally := n.tally + (Text.normalize n.codec.table field).tally }) ∧
      String.ofList (text.map CodePoint.shown) = (Text.normalize n.codec.table field).value := by
  obtain ⟨cached, hdecode⟩ := n.decode_eq field
  have htable := Codec.decodeField_table h
  unfold Codec.refusal? at h
  rw [normalize, hdecode, Text.normalize, htable]
  cases hfield : n.codec.decodeField field with
  | ok s =>
    refine ⟨cached, CodePoint.marked s, rfl, ?_⟩
    rw [CodePoint.map_shown_marked]
    rfl
  | error fault =>
    cases fault with
    | malformed e => exact ⟨cached, [], rfl, rfl⟩
    | refused fault =>
      rw [hfield] at h
      cases h

def take (n : Normalizer registry) : List Octets → Normalizer registry × Option CodecFault
  | [] => (n, none)
  | field :: rest =>
    match n.normalize field with
    | (.error fault, next) => (next, some fault)
    | (.ok _, next) => next.take rest

/-- What a normalizer tallies over fields is what the codec of its default tallies. -/
theorem take_eq (n : Normalizer registry) (fields : List Octets) :
    (n.take fields).1.tally = n.tally + (n.codec.tallyFields fields).1 ∧
      (n.take fields).2 = (n.codec.tallyFields fields).2 := by
  induction fields generalizing n with
  | nil => exact ⟨(Tally.add_zero n.tally).symm, rfl⟩
  | cons field rest ih =>
    unfold take Codec.tallyFields
    cases hrefusal : n.codec.refusal? field with
    | some fault =>
      obtain ⟨cached, hnormalize⟩ := normalize_of_refused hrefusal
      rw [hnormalize]
      exact ⟨(Tally.add_zero n.tally).symm, rfl⟩
    | none =>
      obtain ⟨cached, text, hnormalize, -⟩ := normalize_of_taken hrefusal
      obtain ⟨htally, hfault⟩ := ih
        ⟨n.default, cached, n.tally + (Text.normalize n.codec.table field).tally⟩
      rw [hnormalize]
      refine ⟨htally.trans ?_, hfault⟩
      rw [Tally.add_assoc]
      rfl

end Normalizer

end Text

/-- What the texts of a loop tally is what the counters of a run grow by. -/
theorem Decoder.counters_fill (settings : Settings) (state : DecoderState) {loop : Octets}
    (p : Programme) {read : DescriptorLoop} (h : DescriptorLoop.ofBytes loop = .ok read) :
    let tally := (settings.codec.tallyFields (Projection.fields read.descriptors)).1
    let after := (fill settings state loop p).state.counters
    after.decodeErrors = state.counters.decodeErrors + read.dropped.length + tally.errors ∧
      after.textWarnings = state.counters.textWarnings + tally.warnings := by
  rcases fill_cases settings state loop p with
    ⟨e, hread, -⟩ | ⟨other, hread, ⟨fault, -, hafter⟩ | ⟨-, -, hafter⟩ | ⟨-, -, hafter⟩⟩
  · rw [h] at hread
    cases hread
  all_goals
    cases h.symm.trans hread
    rw [hafter]
    exact ⟨rfl, rfl⟩

namespace Text

variable {registry : Registry}

/-- Whatever the default encoding is, a normalized text is in escaped form, and undoing the entities
in one pass gives the cleaned text of the field. A field that is malformed is empty and adds one
error and no warning. Another one adds no error, and one warning if characters that earn it were
removed, however many. A field that the codec refuses gives no text and adds nothing. The counters
of a run grow by what a normalizer tallies over the fields of an event. -/
theorem normalize_escaped (n : Normalizer registry) (field : Octets) :
    let after := n.normalize field
    (match n.codec.decodeField field with
      | .ok s => ∃ text, after.1 = .ok text ∧ CodePoint.IsEscaped text ∧
          CodePoint.unescape text = CodePoint.each cleanChar s ∧
          after.2.tally = n.tally + ⟨if s.any CodePoint.isRemoved then 1 else 0, 0⟩
      | .error (.malformed _) => after.1 = .ok [] ∧ after.2.tally = n.tally + ⟨0, 1⟩
      | .error (.refused fault) => after.1 = .error fault ∧ after.2.tally = n.tally) ∧
    ∀ (settings : Settings) (state : DecoderState) (loop : Octets) (p : Programme)
      (read : DescriptorLoop), n.codec = settings.codec → DescriptorLoop.ofBytes loop = .ok read →
        let taken := n.take (Projection.fields read.descriptors)
        let counters := (Decoder.fill settings state loop p).state.counters
        counters.decodeErrors + n.tally.errors =
            state.counters.decodeErrors + read.dropped.length + taken.1.tally.errors ∧
          counters.textWarnings + n.tally.warnings =
            state.counters.textWarnings + taken.1.tally.warnings ∧
          (taken.2 = none → taken.1.tally =
            n.tally + (Projection.project settings.table read.descriptors p).tally) := by
  refine ⟨?_, fun settings state loop p read hcodec hread => ?_⟩
  · obtain ⟨cached, hdecode⟩ := n.decode_eq field
    rw [Normalizer.normalize, hdecode]
    cases n.codec.decodeField field with
    | ok s =>
      refine ⟨_, rfl, CodePoint.isEscaped_each_escapeChar _,
        CodePoint.unescape_each_escapeChar _, ?_⟩
      dsimp only
      rw [hasForbidden_shown]
    | error fault =>
      cases fault with
      | malformed e => exact ⟨rfl, rfl⟩
      | refused fault => exact ⟨rfl, rfl⟩
  · obtain ⟨htally, hfault⟩ := n.take_eq (Projection.fields read.descriptors)
    obtain ⟨herrors, hwarnings⟩ := Decoder.counters_fill settings state p hread
    rw [hcodec] at htally hfault
    dsimp only
    refine ⟨?_, ?_, fun htaken => ?_⟩
    · rw [herrors, htally, Tally.errors_add]
      omega
    · rw [hwarnings, htally, Tally.warnings_add]
      omega
    · rw [htally, Projection.tally_project, Codec.tallyFields_eq (hfault.symm.trans htaken)]
      rfl

/-- A text that looks like an entity, with two characters behind it that are removed. -/
def entityField : Octets := [0x26, 0x6C, 0x74, 0x3B, 0x07, 0x0E]

theorem normalize_escaped_entityField :
    let n : Normalizer .known := ⟨none, none, ⟨2, 1⟩⟩
    let text := ['&', 'a', 'm', 'p', ';', 'l', 't', ';'].map CodePoint.char
    (n.normalize entityField).1 = .ok text ∧ CodePoint.IsEscaped text ∧
      CodePoint.unescape text = ['&', 'l', 't', ';'].map .char ∧
      (n.normalize entityField).2.tally = ⟨3, 1⟩ := by
  intro n text
  have htext : (n.normalize entityField).1 = .ok text := by rfl
  have hfield : n.codec.decodeField entityField =
      .ok (['&', 'l', 't', ';', Char.ofNat 7, Char.ofNat 14].map .char) := rfl
  obtain ⟨hcounted, -⟩ := normalize_escaped n entityField
  rw [hfield] at hcounted
  obtain ⟨other, hother, hescaped, hundone, htally⟩ := hcounted
  cases htext.symm.trans hother
  exact ⟨htext, hescaped, hundone, htally⟩

def newsTitle : Octets := [0x4E, 0x65, 0x77, 0x73]

/-- A codec that knows no replacement character refuses a plain title, and nothing counts it. -/
theorem normalize_idna : ∃ n : Normalizer .known,
    Normalizer.fresh .known (some "idna") = .ok n ∧
      (n.normalize newsTitle).1 =
        .error ⟨"UnicodeError", "Unsupported error handling replace"⟩ ∧
      (n.normalize newsTitle).2.tally = 0 := by
  exact ⟨_, Normalizer.fresh_of_lookup Registry.lookup_idna, rfl, rfl⟩

end Text

end BroadcastGuide
