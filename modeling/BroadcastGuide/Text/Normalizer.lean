import BroadcastGuide.Text.Field

/-!
A normalizer takes the fields of a run in turn. It keeps the codec that was used last, so that
fields of one table in a row share it, and tallies what the fields earn.
-/

namespace BroadcastGuide.Text

/-- Puts characters in the place of each character; halves of pairs stay. -/
def CodePoint.each (f : Char → List Char) (s : List CodePoint) : List CodePoint :=
  s.flatMap fun
    | .char c => (f c).map .char
    | .surrogate place => [.surrogate place]

/-- A name with the codec that it stands for. -/
structure Encoding (registry : Registry) where
  name : String
  codec : Codec
  found : registry.lookup name = .ok codec

def Encoding.selected (registry : Registry) {first : UInt8} {rest : Octets}
    {table : CharacterTable} {skip : Nat}
    (h : selectAfter first rest = .ok (.selected table skip)) : Encoding registry :=
  ⟨table.name, table.codec,
    registry.lookup_selectable table (mem_selectable_of_selectAfter h)⟩

structure Normalizer (registry : Registry) where
  /-- The encoding of fields that select none, if it is not the Latin table. -/
  default : Option (Encoding registry)
  /-- The encoding that was used last. -/
  cached : Option (Encoding registry)
  tally : Tally

namespace Normalizer

variable {registry : Registry}

def fresh (registry : Registry) : Option String → Except NameFault (Normalizer registry)
  | none => .ok ⟨none, none, 0⟩
  | some name =>
    match h : registry.lookup name with
    | .ok codec => .ok ⟨some ⟨name, codec, h⟩, none, 0⟩
    | .error fault => .error fault

theorem fresh_of_lookup {name : String} {codec : Codec} (h : registry.lookup name = .ok codec) :
    fresh registry (some name) = .ok ⟨some ⟨name, codec, h⟩, none, 0⟩ := by
  simp only [fresh]
  split
  · rename_i found
    cases h.symm.trans found
    rfl
  · rename_i found
    cases h.symm.trans found

variable (n : Normalizer registry)

/-- The encoding used last if it has the name of this one, or else this one. -/
def reused (e : Encoding registry) : Encoding registry :=
  match n.cached with
  | some c => if c.name = e.name then c else e
  | none => e

def decodeBody (e : Encoding registry) (body : Octets) :
    Except FieldFault (List CodePoint) × Normalizer registry :=
  (((n.reused e).codec.decode body).mapError .refused, { n with cached := some (n.reused e) })

/-- The text of a field that selects no table. The Latin table needs no codec. -/
def decodeDefault (field : Octets) : Except FieldFault (List CodePoint) × Normalizer registry :=
  match n.default with
  | none => (.ok ((Latin.decode field).map .char), n)
  | some e => n.decodeBody e field

def decode : Octets → Except FieldFault (List CodePoint) × Normalizer registry
  | [] => (.ok [], n)
  | first :: rest =>
    match h : selectAfter first rest with
    | .error e => (.error (.malformed e), n)
    | .ok .byDefault => n.decodeDefault (first :: rest)
    | .ok (.selected _ skip) => n.decodeBody (.selected registry h) ((first :: rest).drop skip)

/-- The text of a field as markup carries it. A malformed field is empty; one that its codec refuses
has no text, and is not tallied. -/
def normalize (field : Octets) : Except CodecFault (List CodePoint) × Normalizer registry :=
  let (decoded, next) := n.decode field
  match decoded with
  | .error (.malformed _) => (.ok [], { next with tally := next.tally + ⟨0, 1⟩ })
  | .error (.refused fault) => (.error fault, next)
  | .ok s =>
    let warnings := if hasForbidden (s.map CodePoint.shown) then 1 else 0
    (.ok (CodePoint.each escapeChar (CodePoint.each cleanChar s)),
      { next with tally := next.tally + ⟨warnings, 0⟩ })

def after (fields : List Octets) : Normalizer registry :=
  fields.foldl (fun n f => (n.normalize f).2) n

/-- The codec of fields that select no table. -/
def codec : Codec :=
  match n.default with
  | none => CharacterTable.latin.codec
  | some e => e.codec

/-! ### The encoding that is kept has no say in the texts -/

theorem codec_reused (e : Encoding registry) : (n.reused e).codec = e.codec := by
  unfold reused
  split
  · rename_i c _
    split
    · rename_i same
      have hfound := c.found
      rw [same, e.found] at hfound
      exact (Except.ok.inj hfound).symm
    · rfl
  · rfl

theorem decodeBody_eq (e : Encoding registry) (body : Octets) :
    ∃ cached, n.decodeBody e body =
      ((e.codec.decode body).mapError .refused, { n with cached := cached }) :=
  ⟨some (n.reused e), by rw [decodeBody, codec_reused]⟩

theorem decodeDefault_eq (field : Octets) :
    ∃ cached, n.decodeDefault field =
      ((n.codec.decode field).mapError .refused, { n with cached := cached }) := by
  obtain ⟨default, cached, tally⟩ := n
  cases default with
  | none => exact ⟨cached, rfl⟩
  | some e => exact decodeBody_eq _ e field

/-- A field has the text that it has by itself. -/
theorem decode_eq (field : Octets) :
    ∃ cached, n.decode field = (n.codec.decodeField field, { n with cached := cached }) := by
  cases field with
  | nil => exact ⟨n.cached, rfl⟩
  | cons first rest =>
    simp only [decode, Codec.decodeField]
    split
    · rename_i e hselect
      simp only [hselect]
      exact ⟨n.cached, rfl⟩
    · rename_i hselect
      simp only [hselect]
      exact n.decodeDefault_eq (first :: rest)
    · rename_i hselect
      simp only [hselect]
      exact n.decodeBody_eq (.selected registry hselect) _

end Normalizer

end BroadcastGuide.Text
