import BroadcastGuide.Proofs.Descriptor.Escaped
import BroadcastGuide.Proofs.Markup
import BroadcastGuide.Xmltv

/-! A programme element read back as markup gives the programme: nothing that was broadcast opens
or closes a tag, an attribute or a comment. -/

namespace BroadcastGuide.Xmltv

open Calendar (Instant OutOfCalendar)
open Markup (Node Reads IsName AreQuoted textNodes tagText startTag endTag commentTag attributeText
  attributesText undone)
open Numeral (padded hexLower)
open Text (undo escape escapeAttribute Avoids brackets delimiters reserved)

/-! ### The pieces of a programme -/

def indent (depth : Nat) : String := String.ofList ('\n' :: List.replicate depth '\t')

/-- Pieces one below the other, at one more than the depth of what they stand in. -/
def laidOut (depth : Nat) (pieces : List Node) : List Node :=
  pieces.flatMap (fun piece => [.text (indent (depth + 1)), piece]) ++ [.text (indent depth)]

def textElements (element : String) (texts : List LangText) : List Node :=
  texts.map fun t => .element element [("lang", undo t.language)] (textNodes (undo t.text))

def unknownComments (unknown : List (Int × Int)) : List Node :=
  unknown.map fun (tag, size) =>
    .comment "Unknown_Please_Report" [("ID", hexLower 0 tag), ("Len", toString size)]

def nestedElement (outer : String) (attributes : List (String × String)) (inner text : String) :
    Node :=
  .element outer attributes (laidOut 1 [.element inner [] (textNodes text)])

def childNodes (p : Programme) : List Node :=
  textElements "title" p.titles ++ unknownComments p.unknownDescriptors ++
    textElements "sub-title" p.subtitles ++ textElements "desc" p.descriptions ++
    p.categories.map (fun c => .element "category" [] (textNodes c)) ++
    (shown p.language).map (fun l => .element "language" [] (textNodes (undo l))) ++
    (shown p.videoAspect).map (nestedElement "video" [] "aspect") ++
    (shown p.audioMode).map (nestedElement "audio" [] "stereo") ++
    p.subtitleLanguages.map
      (fun l => nestedElement "subtitles" [("type", "teletext")] "language" (undo l)) ++
    p.ratings.map (fun r => nestedElement "rating" [("system", "dvb")] "value" (toString r)) ++
    p.crids.map (fun c => .element "crid" [("type", c.kind)] (textNodes (undo c.value)))

def programmeNode (p : Programme) (channel start stop : String) : Node :=
  .element "programme" [("channel", channel), ("start", start), ("stop", stop)]
    (laidOut 0 (childNodes p))

/-! ### Lines and the pieces they are -/

/-- Lines that are read as some pieces of a programme. A break is read with the line after it, so
that each group ends with a tag. -/
def Gives (lines : List String) (pieces : List Node) : Prop :=
  Reads (String.join (lines.map ("\n" ++ ·)))
    (pieces.flatMap fun piece => [.text (indent 1), piece])

theorem avoids_reserved_indent (depth : Nat) : Avoids reserved (indent depth) := by
  intro c hc
  rw [indent, String.toList_ofList, List.mem_cons, List.mem_replicate] at hc
  rcases hc with rfl | ⟨_, rfl⟩ <;> decide

theorem avoids_indent (depth : Nat) : Avoids brackets (indent depth) :=
  (avoids_reserved_indent depth).of_reserved.of_delimiters

theorem textNodes_indent (depth : Nat) :
    textNodes (undo (indent depth)) = [.text (indent depth)] := by
  have hline : (indent depth).isEmpty = false := by
    simp [indent]
  rw [(avoids_reserved_indent depth).undo_eq, textNodes, hline, if_neg Bool.false_ne_true]

namespace Gives

variable {α : Type} {lines more : List String} {pieces others : List Node}

theorem nil : Gives [] [] := Reads.empty

theorem append (h : Gives lines pieces) (hmore : Gives more others) :
    Gives (lines ++ more) (pieces ++ others) := by
  rw [Gives, List.map_append, String.join_append, List.flatMap_append]
  exact Reads.append h hmore

theorem flatMap {xs : List α} {f : α → List String} {g : α → Node}
    (h : ∀ x ∈ xs, Gives (f x) [g x]) : Gives (xs.flatMap f) (xs.map g) := by
  induction xs with
  | nil => exact nil
  | cons x rest ih =>
    obtain ⟨hx, hrest⟩ := List.forall_mem_cons.mp h
    exact append hx (ih hrest)

theorem map {xs : List α} {f : α → String} {g : α → Node}
    (h : ∀ x ∈ xs, Gives [f x] [g x]) : Gives (xs.map f) (xs.map g) := by
  rw [List.map_eq_flatMap]
  exact flatMap h

variable {name text value : String} {attributes plain : List (String × String)}

theorem element {line : String} (hname : IsName name) (hattributes : AreQuoted attributes)
    (htext : Avoids brackets text)
    (hline : line = "\t" ++ startTag name attributes ++ text ++ endTag name)
    (hplain : undone attributes = plain) (hvalue : undo text = value) :
    Gives [line] [.element name plain (textNodes value)] := by
  have hreads := Reads.element hname hattributes (avoids_indent 1) htext Reads.empty
  have hjoin : String.join ([line].map ("\n" ++ ·)) =
      indent 1 ++ startTag name attributes ++ "" ++ text ++ endTag name := by
    rw [hline]
    apply String.toList_inj.mp
    simp [indent]
  rw [textNodes_indent, List.nil_append, hplain, hvalue] at hreads
  rw [Gives, hjoin]
  exact hreads

theorem comment {line : String} (hname : IsName name) (hattributes : AreQuoted attributes)
    (hline : line = "\t" ++ commentTag name attributes) (hplain : undone attributes = plain) :
    Gives [line] [.comment name plain] := by
  have hreads := Reads.comment hname hattributes (avoids_indent 1)
  have hjoin : String.join ([line].map ("\n" ++ ·)) = indent 1 ++ commentTag name attributes := by
    rw [hline]
    apply String.toList_inj.mp
    simp [indent]
  rw [textNodes_indent, hplain] at hreads
  rw [Gives, hjoin]
  exact hreads

/-- An element on three lines, the middle one being an element of its own. -/
theorem nested {inner opening : String} (hname : IsName name) (hinner : IsName inner)
    (hattributes : AreQuoted attributes) (htext : Avoids brackets text)
    (hopening : opening = name ++ attributesText attributes)
    (hplain : undone attributes = plain) (hvalue : undo text = value) :
    Gives (Xmltv.nested name opening inner text) [nestedElement name plain inner value] := by
  have hinside := Reads.element hinner AreQuoted.nil (avoids_indent 2) htext Reads.empty
  have hreads := Reads.element hname hattributes (avoids_indent 1) (avoids_indent 1) hinside
  have hjoin : String.join ((Xmltv.nested name opening inner text).map ("\n" ++ ·)) =
      indent 1 ++ startTag name attributes ++
        (indent 2 ++ startTag inner [] ++ "" ++ text ++ endTag inner) ++ indent 1 ++
          endTag name := by
    rw [hopening]
    apply String.toList_inj.mp
    simp [Xmltv.nested, indent, startTag, endTag, tagText]
  rw [textNodes_indent, textNodes_indent, List.nil_append, hplain, hvalue] at hreads
  rw [Gives, hjoin]
  exact hreads

end Gives

/-! ### The children of a programme -/

theorem gives_textLines {element : String} (helement : IsName element) {texts : List LangText}
    (h : ∀ t ∈ texts, t.IsEscaped) :
    Gives (textLines element texts) (textElements element texts) := by
  refine Gives.map fun t ht => ?_
  have hlang : AreQuoted [("lang", t.language)] := .cons (by decide) (h t ht).language .nil
  refine Gives.element helement hlang (h t ht).text (String.toList_inj.mp ?_) rfl rfl
  simp [startTag, endTag, tagText, attributesText, attributeText]

theorem gives_unknownLines (unknown : List (Int × Int)) :
    Gives (unknownLines unknown) (unknownComments unknown) := by
  refine Gives.map fun d _ => ?_
  have hid := Text.avoids_hexLower 0 d.1
  have hlen := Text.avoids_toString d.2
  have hquoted : AreQuoted [("ID", hexLower 0 d.1), ("Len", toString d.2)] :=
    .cons (by decide) hid.of_reserved (.cons (by decide) hlen.of_reserved .nil)
  refine Gives.comment (by decide) hquoted (String.toList_inj.mp ?_) ?_
  · simp [commentTag, tagText, attributesText, attributeText]
  · simp only [undone, List.map_cons, List.map_nil, hid.undo_eq, hlen.undo_eq]

theorem gives_childLines {p : Programme} (h : p.IsEscaped) :
    Gives (childLines p) (childNodes p) := by
  have hlanguage : ∀ l ∈ shown p.language, Avoids brackets l := by
    intro l hl
    rw [shown, Option.mem_toList, ← Option.mem_def, Option.mem_filter_iff] at hl
    exact h.language l hl.1
  unfold childLines childNodes
  refine .append (.append (.append (.append (.append (.append (.append (.append (.append (.append
    (gives_textLines (by decide) h.titles) (gives_unknownLines _))
    (gives_textLines (by decide) h.subtitles)) (gives_textLines (by decide) h.descriptions))
    ?categories) ?language) ?video) ?audio) ?subtitles) ?ratings) ?crids
  case categories =>
    refine Gives.map fun c _ => ?_
    refine Gives.element (by decide) .nil (Text.avoids_escape c) (String.toList_inj.mp ?_) rfl
      (Text.undo_escape c)
    simp [startTag, endTag, tagText]
  case language =>
    refine Gives.map fun l hl => ?_
    refine Gives.element (by decide) .nil (hlanguage l hl) (String.toList_inj.mp ?_) rfl rfl
    simp [startTag, endTag, tagText]
  case video =>
    exact Gives.flatMap fun a _ => Gives.nested (by decide) (by decide) .nil (Text.avoids_escape a)
      (by decide) rfl (Text.undo_escape a)
  case audio =>
    exact Gives.flatMap fun m _ => Gives.nested (by decide) (by decide) .nil (Text.avoids_escape m)
      (by decide) rfl (Text.undo_escape m)
  case subtitles =>
    have htype : AreQuoted [("type", "teletext")] := .cons (by decide) (by decide) .nil
    exact Gives.flatMap fun l hl => Gives.nested (by decide) (by decide) htype
      (h.subtitleLanguages l hl) (by decide) (by decide) rfl
  case ratings =>
    have hsystem : AreQuoted [("system", "dvb")] := .cons (by decide) (by decide) .nil
    exact Gives.flatMap fun r _ => Gives.nested (by decide) (by decide) hsystem
      (Text.avoids_toString r).of_reserved.of_delimiters (by decide) (by decide)
      (Text.avoids_toString r).undo_eq
  case crids =>
    refine Gives.map fun c hc => ?_
    have htype : AreQuoted [("type", escapeAttribute c.kind)] :=
      .cons (by decide) (Text.avoids_escapeAttribute c.kind) .nil
    refine Gives.element (by decide) htype (h.crids c hc) (String.toList_inj.mp ?_) ?_ rfl
    · simp [startTag, endTag, tagText, attributesText, attributeText]
    · simp only [undone, List.map_cons, List.map_nil, Text.undo_escapeAttribute]

/-! ### The programme -/

theorem avoids_zoneText (zone : Int) : Avoids reserved (zoneText zone) := by
  have hsign : Avoids reserved (if zone < 0 then "-" else "+") := by split <;> decide
  have hseconds : Avoids reserved
      (if (zone.natAbs : Int) % 60 = 0 then "" else padded 2 ((zone.natAbs : Int) % 60)) := by
    split
    · exact Avoids.empty
    · exact Text.avoids_padded 2 _
  exact ((hsign.append (Text.avoids_padded 2 _)).append (Text.avoids_padded 2 _)).append hseconds

theorem avoids_localText (t : Instant) : Avoids reserved (localText t) :=
  ((((((Text.avoids_padded 4 _).append (Text.avoids_padded 2 _)).append
    (Text.avoids_padded 2 _)).append (Text.avoids_padded 2 _)).append
      (Text.avoids_padded 2 _)).append (Text.avoids_padded 2 _))

theorem avoids_formatTime {zone : Zone} {t : Instant} {stamp : String}
    (h : formatTime zone t = .ok stamp) : Avoids reserved stamp := by
  have hblank : Avoids reserved " " := by decide
  unfold formatTime at h
  cases hshift : t.shift (zone.offset t) with
  | error e =>
    rw [hshift] at h
    cases h
  | ok there =>
    rw [hshift] at h
    rw [← Except.ok.inj h]
    exact ((avoids_localText there).append hblank).append (avoids_zoneText _)

/-- Breaks after lines, taken as breaks before all but the first and one after the last. -/
theorem join_lines (first : String) (rest : List String) :
    String.join ((first :: rest).map (· ++ "\n")) =
      first ++ String.join (rest.map ("\n" ++ ·)) ++ "\n" := by
  induction rest generalizing first with
  | nil => simp
  | cons second rest ih =>
    rw [List.map_cons, String.join_cons, ih, List.map_cons, String.join_cons]
    simp only [String.append_assoc]

def openingAttributes (channel start stop : String) : List (String × String) :=
  [("channel", escapeAttribute channel), ("start", start), ("stop", stop)]

theorem openingLine_eq (channel start stop : String) :
    openingLine channel start stop =
      startTag "programme" (openingAttributes channel start stop) := by
  -- the equation lemma of this definition is slow to generate
  unfold openingLine
  apply String.toList_inj.mp
  simp [openingAttributes, startTag, tagText, attributesText, attributeText]

/-- A programme element as its tags, its children between them, and a last line break. -/
theorem formatProgramme_eq {p : Programme} (channel : String) {zone : Zone} {start stop : String}
    (hstart : formatTime zone p.start = .ok start) (hstop : formatTime zone p.stop = .ok stop) :
    formatProgramme p channel zone =
      .ok ("" ++ startTag "programme" (openingAttributes channel start stop) ++
        String.join ((childLines p).map ("\n" ++ ·)) ++ indent 0 ++ endTag "programme" ++
          "\n") := by
  have hclosing : String.join (["</programme>"].map ("\n" ++ ·)) =
      indent 0 ++ endTag "programme" := by
    decide
  have hlines : formatProgramme p channel zone =
      .ok (String.join ((openingLine channel start stop ::
        (childLines p ++ ["</programme>"])).map (· ++ "\n"))) := by
    rw [formatProgramme, hstart, hstop]
    rfl
  rw [hlines, join_lines, openingLine_eq, List.map_append, String.join_append, hclosing]
  simp only [String.append_assoc, String.empty_append]

/-- The element of a programme in any zone and with any channel reads back as that channel, the
two times and the programme's own contents, in order. -/
theorem read_formatProgramme {p : Programme} (hp : p.Filled) (channel : String) {zone : Zone}
    {start stop : String} (hstart : formatTime zone p.start = .ok start)
    (hstop : formatTime zone p.stop = .ok stop) :
    ∃ text, formatProgramme p channel zone = .ok text ∧
      Markup.read text = some [programmeNode p channel start stop, .text "\n"] := by
  have hstarts := avoids_formatTime hstart
  have hstops := avoids_formatTime hstop
  have hquoted : AreQuoted (openingAttributes channel start stop) :=
    .cons (by decide) (Text.avoids_escapeAttribute channel) (.cons (by decide) hstarts.of_reserved
      (.cons (by decide) hstops.of_reserved .nil))
  have hplain : undone (openingAttributes channel start stop) =
      [("channel", channel), ("start", start), ("stop", stop)] := by
    simp only [openingAttributes, undone, List.map_cons, List.map_nil, Text.undo_escapeAttribute,
      hstarts.undo_eq, hstops.undo_eq]
  have hreads := Reads.element (by decide : IsName "programme") hquoted Avoids.empty
    (avoids_indent 0) (gives_childLines hp.isEscaped)
  rw [hplain, textNodes_indent] at hreads
  have hbreak : textNodes (undo "\n") = [.text "\n"] := textNodes_indent 0
  refine ⟨_, formatProgramme_eq channel hstart hstop, ?_⟩
  rw [Reads.read_append hreads (by decide), hbreak]
  rfl

/-- A title that looks like a tag, languages that look like the ends of tags and attributes, and a
descriptor that nobody knows. -/
def hostile : Octets :=
  [0x4D, 9, 0x22, 0x3E, 0x3C, 4, 0x3C, 0x2F, 0x61, 0x3E, 0, 0x99, 1, 0,
    0x50, 6, 2, 3, 0, 0x26, 0x3C, 0x22]

def hostileLoop : DescriptorLoop :=
  ⟨[.shortEvent ⟨"&quot;&gt;&lt;", [0x3C, 0x2F, 0x61, 0x3E], []⟩, .other 0x99 [0],
    .component ⟨2, 3, 0, "&amp;&lt;&quot;", []⟩], []⟩

theorem ofBytes_hostile : DescriptorLoop.ofBytes hostile = .ok hostileLoop := by
  have hwalk : DescriptorBlock.walk hostile =
      ⟨[⟨0x4D, [0x22, 0x3E, 0x3C, 4, 0x3C, 0x2F, 0x61, 0x3E, 0]⟩, ⟨0x99, [0]⟩,
        ⟨0x50, [2, 3, 0, 0x26, 0x3C, 0x22]⟩], none⟩ := by
    decide +kernel
  rw [DescriptorLoop.ofBytes, hwalk]
  exact congrArg Except.ok (by decide +kernel)

def hostileProgramme : Programme :=
  { Programme.blank 1 1 0 3600 with
    titles := [⟨"&quot;&gt;&lt;", "&lt;/a&gt;"⟩]
    language := some "&amp;&lt;&quot;"
    audioMode := some "stereo"
    unknownDescriptors := [(0x99, 1)] }

theorem project_hostile :
    (Projection.project .latin hostileLoop.descriptors (Programme.blank 1 1 0 3600)).value =
      hostileProgramme := by
  decide +kernel

theorem read_formatProgramme_hostile : ∃ read text,
    DescriptorLoop.ofBytes hostile = .ok read ∧
      formatProgramme
        (Projection.project .latin read.descriptors (Programme.blank 1 1 0 3600)).value "<&>"
          (Zone.fixed 3600) = .ok text ∧
      Markup.read text = some [.element "programme"
        [("channel", "<&>"), ("start", "19700101010000 +0100"), ("stop", "19700101020000 +0100")]
        (laidOut 0 [.element "title" [("lang", "\"><")] [.text "</a>"],
          .comment "Unknown_Please_Report" [("ID", "99"), ("Len", "1")],
          .element "language" [] [.text "&<\""],
          .element "audio" [] (laidOut 1 [.element "stereo" [] [.text "stereo"]])]),
        .text "\n"] := by
  have hblank : (Programme.blank 1 1 0 3600).Filled := .blank 1 1 0 3600 0 0 false false
  have hfilled := hblank.project .latin ofBytes_hostile
  rw [project_hostile] at hfilled
  obtain ⟨text, hformat, hread⟩ := read_formatProgramme hfilled "<&>"
    (rfl : formatTime (Zone.fixed 3600) hostileProgramme.start = .ok "19700101010000 +0100")
    (rfl : formatTime (Zone.fixed 3600) hostileProgramme.stop = .ok "19700101020000 +0100")
  rw [← project_hostile] at hformat
  exact ⟨hostileLoop, text, ofBytes_hostile, hformat, hread⟩

end BroadcastGuide.Xmltv
