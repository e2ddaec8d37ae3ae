import BroadcastGuide.Proofs.Text.Entities

/-! Markup read back. Tags are told from text by their brackets and attributes by their quotes,
entities are undone once, and elements nest as their tags do; what does not nest has no reading. -/

namespace BroadcastGuide.Markup

open Text (undo Avoids brackets delimiters)

inductive Node
  | element (name : String) (attributes : List (String × String)) (children : List Node)
  | comment (name : String) (attributes : List (String × String))
  | text (value : String)

def textNodes (value : String) : List Node := if value.isEmpty then [] else [.text value]

/-! ### Tags -/

inductive Tag
  | opening (name : String) (attributes : List (String × String))
  | closing (name : String)
  | comment (name : String) (attributes : List (String × String))

namespace Tag

def key? : List Char → Option String
  | ' ' :: key => if key.getLast? = some '=' then some (String.ofList key.dropLast) else none
  | _ => none

def attributes? : List (List Char) → Option (List (String × String))
  | gap :: value :: rest => do
    let key ← key? gap
    let others ← attributes? rest
    return (key, undo (String.ofList value)) :: others
  | [blanks] => if blanks.all (· == ' ') then some [] else none
  | [] => none

def headed? (body : List Char) : Option (String × List (String × String)) := do
  let attributes ← attributes? ((body.dropWhile (· != ' ')).splitOn '"')
  return (String.ofList (body.takeWhile (· != ' ')), attributes)

def ofBody? : List Char → Option Tag
  | '/' :: name => some (closing (String.ofList name))
  | '!' :: '-' :: '-' :: inner =>
    if ['-', '-'].isSuffixOf inner then
      (headed? inner.dropLast.dropLast).map fun (name, attributes) => comment name attributes
    else none
  | body => (headed? body).map fun (name, attributes) => opening name attributes

end Tag

/-! ### Reading -/

/-- An element that is still open, and the pieces before it. -/
structure OpenElement where
  name : String
  attributes : List (String × String)
  before : List Node

/-- How far a document is read: the open elements from the inside out, the pieces of the innermost
one, and the characters since the last bracket. -/
structure Reader where
  outer : List OpenElement
  nodes : List Node
  inTag : Bool
  pending : List Char

namespace Reader

def start : Reader := ⟨[], [], false, []⟩

def allNodes (r : Reader) : List Node := r.nodes ++ textNodes (undo (String.ofList r.pending))

/-- Puts a tag in its place. A closing tag must have the name of the innermost open element. -/
def place (r : Reader) : Tag → Option Reader
  | .opening name attributes => some ⟨⟨name, attributes, r.nodes⟩ :: r.outer, [], false, []⟩
  | .comment name attributes => some ⟨r.outer, r.nodes ++ [.comment name attributes], false, []⟩
  | .closing name =>
    match r.outer with
    | [] => none
    | e :: outer =>
      if e.name = name then
        some ⟨outer, e.before ++ [.element e.name e.attributes r.nodes], false, []⟩
      else none

def step (r : Reader) (c : Char) : Option Reader :=
  if c = '<' then
    if r.inTag then none else some { r with nodes := r.allNodes, inTag := true, pending := [] }
  else if c = '>' then if r.inTag then (Tag.ofBody? r.pending).bind r.place else none
  else some { r with pending := r.pending ++ [c] }

def run (r : Reader) (s : String) : Option Reader := s.toList.foldlM step r

end Reader

def read (s : String) : Option (List Node) :=
  match Reader.start.run s with
  | some ⟨[], nodes, false, pending⟩ => some (Reader.allNodes ⟨[], nodes, false, pending⟩)
  | _ => none

/-! ### Tags as they are written -/

def IsName (s : String) : Prop := Avoids (' ' :: '!' :: '/' :: delimiters) s

def attributeText (a : String × String) : String := " " ++ a.1 ++ "=\"" ++ a.2 ++ "\""

def attributesText (attributes : List (String × String)) : String :=
  String.join (attributes.map attributeText)

def tagText (body : String) : String := "<" ++ body ++ ">"

def startTag (name : String) (attributes : List (String × String)) : String :=
  tagText (name ++ attributesText attributes)

def endTag (name : String) : String := tagText ("/" ++ name)

def commentTag (name : String) (attributes : List (String × String)) : String :=
  tagText ("!--" ++ name ++ attributesText attributes ++ " --")

instance (s : String) : Decidable (IsName s) := inferInstanceAs (Decidable (Avoids _ s))

theorem IsName.avoids_brackets {s : String} (h : IsName s) : Avoids brackets s :=
  h.of_subset (by decide)

def AreQuoted (attributes : List (String × String)) : Prop :=
  ∀ a ∈ attributes, IsName a.1 ∧ Avoids delimiters a.2

def undone (attributes : List (String × String)) : List (String × String) :=
  attributes.map fun a => (a.1, undo a.2)

@[simp] theorem attributesText_nil : attributesText [] = "" := rfl

theorem attributesText_head (attributes : List (String × String)) :
    (attributesText attributes).toList = [] ∨
      ∃ tail, (attributesText attributes).toList = ' ' :: tail := by
  cases attributes with
  | nil => exact Or.inl rfl
  | cons a rest =>
    refine Or.inr ⟨a.1.toList ++ "=\"".toList ++ a.2.toList ++ "\"".toList ++
      (attributesText rest).toList, ?_⟩
    simp [attributesText, attributeText, String.toList_join]

namespace AreQuoted

variable {key value : String} {attributes : List (String × String)}

theorem nil : AreQuoted [] := nofun

theorem cons (hkey : IsName key) (hvalue : Avoids delimiters value) (h : AreQuoted attributes) :
    AreQuoted ((key, value) :: attributes) :=
  List.forall_mem_cons.mpr ⟨⟨hkey, hvalue⟩, h⟩

theorem avoids_attributesText (h : AreQuoted attributes) :
    Avoids brackets (attributesText attributes) := by
  refine Avoids.join fun s hs => ?_
  obtain ⟨⟨key, value⟩, ha, rfl⟩ := List.mem_map.mp hs
  obtain ⟨hkey, hvalue⟩ := h _ ha
  have hblank : Avoids brackets " " := by decide
  have hopening : Avoids brackets "=\"" := by decide
  have hclosing : Avoids brackets "\"" := by decide
  exact (((hblank.append hkey.avoids_brackets).append hopening).append
    hvalue.of_delimiters).append hclosing

end AreQuoted

namespace Tag

variable {name : String} {attributes : List (String × String)}

theorem key?_gap (key : String) : key? (' ' :: (key.toList ++ ['='])) = some key := by
  simp [key?]

/-- Split at their quotes, attributes give their names and values back. -/
theorem attributes?_attributesText (h : AreQuoted attributes) {blanks : List Char}
    (hblanks : ∀ c ∈ blanks, c = ' ') :
    attributes? (((attributesText attributes).toList ++ blanks).splitOn '"') =
      some (undone attributes) := by
  -- each attribute is two of the pieces: its name with what stands around it, and its value
  induction attributes with
  | nil =>
    have hquote : '"' ∉ blanks := fun hmem => absurd (hblanks _ hmem) (by decide)
    have hall : blanks.all (· == ' ') := by simpa using hblanks
    rw [attributesText_nil, String.toList_empty, List.nil_append, List.splitOn_eq_singleton hquote,
      attributes?, if_pos hall]
    rfl
  | cons a rest ih =>
    obtain ⟨key, value⟩ := a
    obtain ⟨hkey, hvalue⟩ := h _ List.mem_cons_self
    have hgap : '"' ∉ ' ' :: (key.toList ++ ['=']) := by
      intro hmem
      simp only [List.mem_cons, List.mem_append, List.mem_nil_iff, or_false] at hmem
      rcases hmem with hmem | hmem | hmem
      · exact absurd hmem (by decide)
      · exact hkey _ hmem (by decide)
      · exact absurd hmem (by decide)
    have hinside : '"' ∉ value.toList := fun hmem => hvalue _ hmem (by decide)
    have hquotes : (attributesText ((key, value) :: rest)).toList ++ blanks =
        (' ' :: (key.toList ++ ['='])) ++
          '"' :: (value.toList ++ '"' :: ((attributesText rest).toList ++ blanks)) := by
      simp [attributesText, attributeText, String.toList_join]
    rw [hquotes, List.splitOn_append_cons_self_of_not_mem hgap,
      List.splitOn_append_cons_self_of_not_mem hinside, attributes?, key?_gap,
      ih fun a ha => h a (List.mem_cons_of_mem _ ha), String.ofList_toList]
    rfl

theorem headed?_attributesText (hname : IsName name) (h : AreQuoted attributes) (blanks : List Char)
    (hblanks : ∀ c ∈ blanks, c = ' ') :
    headed? (name.toList ++ ((attributesText attributes).toList ++ blanks)) =
      some (name, undone attributes) := by
  have hletters : ∀ c ∈ name.toList, (c != ' ') = true := by
    intro c hc
    rw [bne_iff_ne]
    rintro rfl
    exact hname _ hc (by decide)
  have hattributes := attributes?_attributesText h hblanks
  generalize hrest : (attributesText attributes).toList ++ blanks = rest at hattributes ⊢
  have hblank : rest = [] ∨ ∃ tail, rest = ' ' :: tail := by
    rcases attributesText_head attributes with hnil | ⟨tail, htail⟩
    · rw [hnil, List.nil_append] at hrest
      cases rest with
      | nil => exact Or.inl rfl
      | cons c tail =>
        have hc := hblanks c (hrest ▸ List.mem_cons_self)
        exact Or.inr ⟨tail, by rw [hc]⟩
    · rw [htail] at hrest
      exact Or.inr ⟨_, hrest.symm⟩
  have htake : rest.takeWhile (· != ' ') = [] := by
    rcases hblank with rfl | ⟨tail, rfl⟩ <;> simp
  have hdrop : rest.dropWhile (· != ' ') = rest := by
    rcases hblank with rfl | ⟨tail, rfl⟩ <;> simp
  rw [headed?, List.takeWhile_append_of_pos hletters, List.dropWhile_append_of_pos hletters,
    htake, hdrop, hattributes, List.append_nil, String.ofList_toList]
  rfl

/-- What opens an element cannot be taken for what closes one, nor for a comment. -/
theorem ne_of_head (hname : IsName name) {c : Char} {rest : List Char}
    (hbody : name.toList ++ (attributesText attributes).toList = c :: rest) :
    c ≠ '/' ∧ c ≠ '!' := by
  cases hletters : name.toList with
  | nil =>
    rw [hletters, List.nil_append] at hbody
    rcases attributesText_head attributes with hnil | ⟨tail, htail⟩
    · rw [hnil] at hbody
      cases hbody
    · rw [htail] at hbody
      cases hbody
      decide
  | cons d letters =>
    rw [hletters, List.cons_append] at hbody
    obtain ⟨rfl, -⟩ := List.cons.inj hbody
    have hmarks := hname d (hletters ▸ List.mem_cons_self)
    constructor
    · rintro rfl
      exact hmarks (by decide)
    · rintro rfl
      exact hmarks (by decide)

theorem ofBody?_opening (hname : IsName name) (h : AreQuoted attributes) :
    ofBody? (name ++ attributesText attributes).toList =
      some (opening name (undone attributes)) := by
  have hheaded := headed?_attributesText hname h [] (by simp)
  rw [List.append_nil] at hheaded
  rw [String.toList_append]
  unfold ofBody?
  split
  · rename_i hbody
    exact absurd rfl (ne_of_head hname hbody).1
  · rename_i hbody
    exact absurd rfl (ne_of_head hname hbody).2
  · rw [hheaded]
    rfl

theorem ofBody?_closing (name : String) : ofBody? ("/" ++ name).toList = some (closing name) := by
  simp [ofBody?]

theorem ofBody?_comment (hname : IsName name) (h : AreQuoted attributes) :
    ofBody? ("!--" ++ name ++ attributesText attributes ++ " --").toList =
      some (comment name (undone attributes)) := by
  have hheaded := headed?_attributesText hname h [' '] (by simp)
  have hbody : ("!--" ++ name ++ attributesText attributes ++ " --").toList =
      '!' :: '-' :: '-' :: (name.toList ++ ((attributesText attributes).toList ++ [' '])
        ++ ['-', '-']) := by
    simp
  have hsuffix : ['-', '-'].isSuffixOf
      (name.toList ++ ((attributesText attributes).toList ++ [' ']) ++ ['-', '-']) = true := by
    rw [List.isSuffixOf_iff_suffix]
    exact List.suffix_append _ _
  have hinner : (name.toList ++ ((attributesText attributes).toList ++ [' '])
      ++ ['-', '-']).dropLast.dropLast =
        name.toList ++ ((attributesText attributes).toList ++ [' ']) := by
    simp
  rw [hbody, ofBody?, if_pos hsuffix, hinner, hheaded]
  rfl

end Tag

/-! ### Documents -/

namespace Reader

variable {r : Reader} {s t : String}

theorem run_append (r : Reader) (s t : String) :
    r.run (s ++ t) = (r.run s).bind fun between => between.run t := by
  rw [run, String.toList_append, List.foldlM_append]
  rfl

theorem run_data (h : Avoids brackets s) (r : Reader) :
    r.run s = some { r with pending := r.pending ++ s.toList } := by
  unfold run
  unfold Avoids at h
  generalize s.toList = chars at h
  induction chars generalizing r with
  | nil => simp
  | cons c rest ih =>
    have hc := h c List.mem_cons_self
    have hopen : c ≠ '<' := fun hc' => hc (hc' ▸ List.mem_cons_self)
    have hclose : c ≠ '>' := fun hc' => hc (hc' ▸ List.mem_cons_of_mem _ List.mem_cons_self)
    have hstep : r.step c = some { r with pending := r.pending ++ [c] } := by
      rw [step, if_neg hopen, if_neg hclose]
    rw [List.foldlM_cons, hstep, Option.bind_eq_bind, Option.bind_some,
      ih _ fun d hd => h d (List.mem_cons_of_mem _ hd)]
    simp

/-- A tag takes its place after the text before it. -/
theorem run_tag {body : String} (hbody : Avoids brackets body) {tag : Tag}
    (htag : Tag.ofBody? body.toList = some tag) (hr : r.inTag = false) :
    r.run (tagText body) = place { r with nodes := r.allNodes } tag := by
  have hopening : r.run "<" =
      some { r with nodes := r.allNodes, inTag := true, pending := [] } := by
    simp [run, step, hr]
  have hclosing (between : Reader) (htag : Tag.ofBody? between.pending = some tag)
      (hin : between.inTag = true) : between.run ">" = between.place tag := by
    simp [run, step, hin, htag]
  rw [tagText, run_append, run_append, hopening, Option.bind_some, run_data hbody, Option.bind_some,
    hclosing _ htag rfl]
  cases tag <;> rfl

variable {name : String} {attributes : List (String × String)}

theorem run_startTag (hname : IsName name) (h : AreQuoted attributes) (hr : r.inTag = false) :
    r.run (startTag name attributes) =
      some ⟨⟨name, undone attributes, r.allNodes⟩ :: r.outer, [], false, []⟩ :=
  run_tag (hname.avoids_brackets.append h.avoids_attributesText) (Tag.ofBody?_opening hname h) hr

theorem run_commentTag (hname : IsName name) (h : AreQuoted attributes) (hr : r.inTag = false) :
    r.run (commentTag name attributes) =
      some ⟨r.outer, r.allNodes ++ [.comment name (undone attributes)], false, []⟩ := by
  have hopening : Avoids brackets "!--" := by decide
  have hclosing : Avoids brackets " --" := by decide
  have hinner := hname.avoids_brackets.append h.avoids_attributesText
  have hbody := (hopening.append hinner).append hclosing
  rw [← String.append_assoc] at hbody
  exact run_tag hbody (Tag.ofBody?_comment hname h) hr

theorem run_endTag (hname : IsName name) (hr : r.inTag = false) {before : List Node}
    {outer : List OpenElement} (houter : r.outer = ⟨name, attributes, before⟩ :: outer) :
    r.run (endTag name) =
      some ⟨outer, before ++ [.element name attributes r.allNodes], false, []⟩ := by
  have hslash : Avoids brackets "/" := by decide
  rw [endTag, run_tag (hslash.append hname.avoids_brackets) (Tag.ofBody?_closing name) hr]
  simp [place, houter]

end Reader

def Reads (s : String) (nodes : List Node) : Prop :=
  ∀ outer before, Reader.run ⟨outer, before, false, []⟩ s = some ⟨outer, before ++ nodes, false, []⟩

namespace Reads

variable {s t : String} {a b : List Node}

theorem empty : Reads "" [] := by
  intro outer before
  rw [List.append_nil]
  rfl

theorem append (hs : Reads s a) (ht : Reads t b) : Reads (s ++ t) (a ++ b) := by
  intro outer before
  rw [Reader.run_append, hs, Option.bind_some, ht, List.append_assoc]

theorem element {name before inner after : String} {attributes : List (String × String)}
    {nodes : List Node} (hname : IsName name) (hattributes : AreQuoted attributes)
    (hbefore : Avoids brackets before) (hafter : Avoids brackets after) (h : Reads inner nodes) :
    Reads (before ++ startTag name attributes ++ inner ++ after ++ endTag name)
      (textNodes (undo before) ++
        [.element name (undone attributes) (nodes ++ textNodes (undo after))]) := by
  intro outer siblings
  rw [Reader.run_append, Reader.run_append, Reader.run_append, Reader.run_append,
    Reader.run_data hbefore, Option.bind_some, Reader.run_startTag hname hattributes rfl,
    Option.bind_some, h, Option.bind_some, Reader.run_data hafter, Option.bind_some,
    Reader.run_endTag hname rfl rfl]
  simp [Reader.allNodes]

theorem comment {name before : String} {attributes : List (String × String)}
    (hname : IsName name) (hattributes : AreQuoted attributes) (hbefore : Avoids brackets before) :
    Reads (before ++ commentTag name attributes)
      (textNodes (undo before) ++ [.comment name (undone attributes)]) := by
  intro outer siblings
  rw [Reader.run_append, Reader.run_data hbefore, Option.bind_some,
    Reader.run_commentTag hname hattributes rfl]
  simp [Reader.allNodes]

/-- A document is read as its parts, with the text after the last tag. -/
theorem read_append (hs : Reads s a) (ht : Avoids brackets t) :
    read (s ++ t) = some (a ++ textNodes (undo t)) := by
  have hrun : Reader.start.run (s ++ t) = some ⟨[], a, false, t.toList⟩ := by
    rw [Reader.run_append, Reader.start, hs, Option.bind_some, Reader.run_data ht]
    rfl
  rw [read, hrun]
  simp [Reader.allNodes]

example : read "<a k=\"1&lt;2\">x<b></b></a>" =
    some [.element "a" [("k", "1<2")] [.text "x", .element "b" [] []]] := by
  rfl

example : read "<a><b></a></b>" = none := by rfl

end Reads

end BroadcastGuide.Markup
