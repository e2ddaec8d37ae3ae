import BroadcastGuide.Channels
import BroadcastGuide.Guide
import BroadcastGuide.Proofs.Grabber.Accounts
import BroadcastGuide.Proofs.Grabber.Totality
import BroadcastGuide.Proofs.Xmltv
import Mathlib.Data.List.Forall2
import Mathlib.Data.List.TakeWhile

/-! The document that a run is written to. However the run ends, it is one head, an element for each
programme that the run gave, in their order, and one end. -/

namespace BroadcastGuide

open Calendar (Instant)
open Markup (Node Reads IsName AreQuoted textNodes startTag endTag undone)
open Text (Avoids brackets)

namespace Xmltv

/-! ### Opening and closing -/

/-- A call that opens or closes a document. -/
inductive Call
  | opens
  | closes
  deriving DecidableEq

namespace Writer

def call (w : Writer) : Call → Writer × String
  | .opens => w.openDocument
  | .closes => w.closeDocument

def written (w : Writer) : List Call → List String
  | [] => []
  | c :: rest =>
    let (next, text) := w.call c
    if text.isEmpty then next.written rest else text :: next.written rest

variable {w : Writer}

theorem written_of_closed (opened : w.isOpened = true) (closed : w.isClosed = true)
    (calls : List Call) : w.written calls = [] := by
  induction calls with
  | nil => rfl
  | cons c rest ih =>
    have hcall : w.call c = (w, "") := by
      cases c with
      | opens => rw [call, openDocument, if_pos opened]
      | closes => rw [call, closeDocument, closed, Bool.true_or, if_pos rfl]
    rw [written, hcall]
    exact ih

theorem written_of_opened (opened : w.isOpened = true) (unclosed : w.isClosed = false)
    (calls : List Call) : w.written calls = if .closes ∈ calls then [tail] else [] := by
  induction calls with
  | nil => rfl
  | cons c rest ih =>
    cases c with
    | opens =>
      have hcall : w.call .opens = (w, "") := by rw [call, openDocument, if_pos opened]
      rw [written, hcall]
      simpa using ih
    | closes =>
      have hcall : w.call .closes = ({ w with isClosed := true }, tail) := by
        rw [call, closeDocument, opened, unclosed]
        rfl
      have hrest : ({ w with isClosed := true } : Writer).written rest = [] :=
        written_of_closed (w := { w with isClosed := true }) opened rfl rest
      rw [written, hcall, if_pos List.mem_cons_self]
      dsimp only
      rw [if_neg (by decide), hrest]

/-- The calls from the first one on that opens a document. -/
def fromOpening (calls : List Call) : List Call := calls.dropWhile (· ≠ .opens)

theorem fromOpening_eq_nil {calls : List Call} (h : .opens ∉ calls) : fromOpening calls = [] := by
  refine List.dropWhile_eq_nil_iff.mpr fun c hc => decide_eq_true ?_
  rintro rfl
  exact h hc

theorem written_fresh (calls : List Call) : fresh.written calls =
    if .opens ∈ calls then head :: (if .closes ∈ fromOpening calls then [tail] else [])
    else [] := by
  induction calls with
  | nil => rfl
  | cons c rest ih =>
    cases c with
    | opens =>
      have hcall : fresh.call .opens = ({ fresh with isOpened := true }, head) := rfl
      rw [written, hcall, if_pos List.mem_cons_self]
      dsimp only
      rw [if_neg (by decide), written_of_opened rfl rfl]
      simp [fromOpening]
    | closes =>
      have hcall : fresh.call .closes = (fresh, "") := rfl
      rw [written, hcall]
      simpa [fromOpening] using ih

/-- A document has its head since the first call that opens it, and its end since the first call
after that which closes it. -/
theorem written_calls (calls : List Call) :
    fresh.written calls <+: [head, tail] ∧
      (head ∈ fresh.written calls ↔ .opens ∈ calls) ∧
      (tail ∈ fresh.written calls ↔ .closes ∈ fromOpening calls) := by
  have hne : tail ≠ head := by decide
  rw [written_fresh]
  by_cases opens : .opens ∈ calls
  · rw [if_pos opens]
    by_cases closes : .closes ∈ fromOpening calls
    · simp [opens, closes]
    · simp [opens, closes, hne]
  · simp [opens, fromOpening_eq_nil opens]

end Writer

/-! ### The elements of programmes -/

/-- The element of a programme: the text that is written, and the piece that is read back. -/
structure Element where
  text : String
  node : Node

structure Element.Shows (ident : Int → String) (zone : Zone) (p : Programme) (e : Element) :
    Prop where
  formatted : formatProgramme p (ident p.serviceId) zone = .ok e.text
  node_eq : ∃ start stop, formatTime zone p.start = .ok start ∧
    formatTime zone p.stop = .ok stop ∧ e.node = programmeNode p (ident p.serviceId) start stop
  reads : ∃ markup, e.text = markup ++ "\n" ∧ Reads ("\n" ++ markup) [.text "\n", e.node]

theorem areQuoted_openingAttributes (channel : String) {zone : Zone} {t u : Instant}
    {start stop : String} (hstart : formatTime zone t = .ok start)
    (hstop : formatTime zone u = .ok stop) : AreQuoted (openingAttributes channel start stop) :=
  .cons (by decide) (Text.avoids_escapeAttribute channel)
    (.cons (by decide) (avoids_formatTime hstart).of_reserved
      (.cons (by decide) (avoids_formatTime hstop).of_reserved .nil))

theorem undone_openingAttributes (channel : String) {zone : Zone} {t u : Instant}
    {start stop : String} (hstart : formatTime zone t = .ok start)
    (hstop : formatTime zone u = .ok stop) : undone (openingAttributes channel start stop) =
      [("channel", channel), ("start", start), ("stop", stop)] := by
  simp only [openingAttributes, undone, List.map_cons, List.map_nil, Text.undo_escapeAttribute,
    (avoids_formatTime hstart).undo_eq, (avoids_formatTime hstop).undo_eq]

theorem exists_shows (ident : Int → String) {zone : Zone} {p : Programme} (hp : p.Filled)
    {start stop : String} (hstart : formatTime zone p.start = .ok start)
    (hstop : formatTime zone p.stop = .ok stop) : ∃ e : Element, e.Shows ident zone p := by
  have hreads := Reads.element (by decide : IsName "programme")
    (areQuoted_openingAttributes (ident p.serviceId) hstart hstop) (avoids_indent 0)
    (avoids_indent 0) (gives_childLines hp.isEscaped)
  have hbreak : indent 0 = "\n" := by decide
  rw [undone_openingAttributes _ hstart hstop, textNodes_indent, hbreak] at hreads
  refine ⟨⟨_, programmeNode p (ident p.serviceId) start stop⟩,
    formatProgramme_eq (ident p.serviceId) hstart hstop, ⟨start, stop, hstart, hstop, rfl⟩,
    _, rfl, ?_⟩
  rw [hbreak]
  simp only [String.append_assoc, String.empty_append] at hreads ⊢
  exact hreads

/-! ### A whole document -/

def declaration : String :=
  "<?xml version=\"1.0\" encoding=\"UTF-8\"?>\n<!DOCTYPE tv SYSTEM \"xmltv.dtd\">\n"

def rootAttributes : List (String × String) := [("generator-info-name", "dvb-epg-gen")]

/-- A document with such elements, as it is read. -/
def documentNodes (nodes : List Node) : List Node :=
  [.element "tv" rootAttributes (nodes.flatMap (fun node => [.text "\n", node]) ++ [.text "\n"]),
    .text "\n"]

def documentMarkup (texts : List String) : String :=
  startTag "tv" rootAttributes ++ ("\n" ++ String.join texts) ++ tail

theorem head_eq : head = declaration ++ startTag "tv" rootAttributes ++ "\n" := by
  decide

variable {ident : Int → String} {zone : Zone} {programmes : List Programme}
  {elements : List Element}

theorem reads_elements (h : List.Forall₂ (Element.Shows ident zone) programmes elements) :
    ∃ markup, "\n" ++ String.join (elements.map (·.text)) = markup ++ "\n" ∧
      Reads markup ((elements.map (·.node)).flatMap fun node => [.text "\n", node]) := by
  -- the line break after an element is read with the element that follows
  induction h with
  | nil => exact ⟨"", rfl, Reads.empty⟩
  | cons shows _ ih =>
    obtain ⟨markup, htext, hreads⟩ := shows.reads
    obtain ⟨rest, hrest, hreads'⟩ := ih
    refine ⟨"\n" ++ markup ++ rest, ?_, Reads.append hreads hreads'⟩
    rw [List.map_cons, String.join_cons, htext, String.append_assoc, hrest]
    simp only [String.append_assoc]

/-- A document reads back as one container of its elements, in order. -/
theorem read_documentMarkup (h : List.Forall₂ (Element.Shows ident zone) programmes elements) :
    Markup.read (documentMarkup (elements.map (·.text))) =
      some (documentNodes (elements.map (·.node))) := by
  obtain ⟨markup, htext, hreads⟩ := reads_elements h
  have hquoted : AreQuoted rootAttributes := .cons (by decide) (by decide) .nil
  have hundone : undone rootAttributes = rootAttributes := by decide
  have hbreak : Avoids brackets "\n" := by decide
  have hroot := Reads.element (by decide : IsName "tv") hquoted Avoids.empty hbreak hreads
  have hmarkup : documentMarkup (elements.map (·.text)) =
      "" ++ startTag "tv" rootAttributes ++ markup ++ "\n" ++ endTag "tv" ++ "\n" := by
    have htail : tail = endTag "tv" ++ "\n" := by decide
    rw [documentMarkup, htext, htail]
    simp only [String.append_assoc, String.empty_append]
  have hline : textNodes (Text.undo "\n") = [.text "\n"] := textNodes_indent 0
  rw [hundone, hline] at hroot
  rw [hmarkup, Reads.read_append hroot hbreak, hline]
  rfl

end Xmltv

namespace Guide

open Xmltv (Element)

variable {ident : Int → String} {zone : Xmltv.Zone}

theorem programme_eq {p : Programme} {e : Element} (h : e.Shows ident zone p) (g : Guide) :
    g.programme ident zone p =
      .ok ⟨g.text ++ e.text, { g.writer with programmes := g.writer.programmes + 1 }⟩ := by
  rw [programme, Xmltv.Writer.programme, h.formatted]
  rfl

theorem programmes_eq {programmes : List Programme} {elements : List Element}
    (h : List.Forall₂ (Element.Shows ident zone) programmes elements) (g : Guide) :
    g.programmes ident zone programmes =
      (⟨g.text ++ String.join (elements.map (·.text)),
        { g.writer with programmes := g.writer.programmes + elements.length }⟩, none) := by
  induction h generalizing g with
  | nil => simp [Guide.programmes]
  | cons shows _ ih =>
    simp only [Guide.programmes, programme_eq shows]
    rw [ih, List.map_cons, String.join_cons, List.length_cons, String.append_assoc]
    simp only [Nat.add_assoc, Nat.add_comm 1]

/-- A document is ended, and the fault passed on that comes after programmes which can all be
written. -/
theorem ofProgrammes_eq {programmes : List Programme} {elements : List Element}
    (h : List.Forall₂ (Element.Shows ident zone) programmes elements)
    (ending : Option GrabFault) :
    ofProgrammes ident zone [] programmes ending =
      (⟨Xmltv.head ++ String.join (elements.map (·.text)) ++ Xmltv.tail,
        ⟨true, true, elements.length⟩⟩, ending.map .run) := by
  have hwritten := programmes_eq h blank.enter
  rw [show blank.enter.writer.programmes = 0 from rfl, Nat.zero_add] at hwritten
  simp only [ofProgrammes, within, List.foldl_nil, hwritten, Option.none_or]
  rfl

end Guide

/-! ### The programmes of a run -/

namespace Decoder

theorem records_give {settings : Settings} {now : Instant} {info : EventSection}
    {state : DecoderState} {rs : List EventRecord} {ps : List Programme}
    (h : (records settings now info state rs).result = .ok ps) :
    ∀ p ∈ ps, ∃ r isUpdate, Gives settings now info r isUpdate p := by
  induction rs generalizing state ps with
  | nil =>
    cases h
    exact fun p hp => absurd hp List.not_mem_nil
  | cons r rest ih =>
    rcases records_cases settings now info state r rest with ⟨e, -, hall⟩ | ⟨p?, hfirst, -, hall⟩
    · rw [hall] at h
      cases h
    · obtain ⟨later, hlater, rfl⟩ := (hall ps).mp h
      intro p hp
      rcases List.mem_append.mp hp with hp | hp
      · cases Option.mem_toList.mp hp
        obtain ⟨isUpdate, gives, -⟩ := record_eq_some hfirst
        exact ⟨r, isUpdate, gives⟩
      · exact ih hlater p hp

end Decoder

/-- A programme that some record of some section gives. -/
def Programme.IsGiven (settings : Settings) (now : Instant) (p : Programme) : Prop :=
  ∃ info r isUpdate, Decoder.Gives settings now info r isUpdate p

namespace Grabber

variable {settings : Settings} {now : Instant}

theorem handle_given (state : GrabState) (s : RawSection) :
    ∀ p ∈ programmesOf (handle settings now state s).events, p.IsGiven settings now := by
  cases hinfo : settings.events? s with
  | none =>
    obtain ⟨next, hhandle, -⟩ := handle_of_none now state hinfo
    rw [hhandle]
    exact fun p hp => absurd hp List.not_mem_nil
  | some info =>
    rw [handle_of_some now state hinfo]
    dsimp only
    split
    · rename_i ps hdecode
      rw [programmesOf_section]
      exact fun p hp => ⟨info, Decoder.records_give (Decoder.decode_eq_ok hdecode).1 p hp⟩
    · exact fun p hp => absurd hp List.not_mem_nil

theorem handleSections_given (state : GrabState) (sections : List RawSection) :
    ∀ p ∈ programmesOf (handleSections settings now state sections).events,
      p.IsGiven settings now := by
  induction sections generalizing state with
  | nil => exact fun p hp => absurd hp List.not_mem_nil
  | cons s rest ih =>
    cases hfirst : (handle settings now state s).fault with
    | some fault =>
      simp only [handleSections, hfirst]
      exact handle_given state s
    | none =>
      rw [handleSections_cons hfirst, programmesOf_append]
      exact List.forall_mem_append.mpr ⟨handle_given state s, ih _⟩

/-- Every programme of a run is given by a record. -/
theorem run_given {σ : Type} [ByteSource σ] (settings : Settings) (now : Instant) (source : σ) :
    ∀ p ∈ (run settings now source).programmes, p.IsGiven settings now := by
  obtain ⟨hevents, -, -⟩ := run_handled settings now source
  rw [Grab.programmes, hevents]
  exact handleSections_given .initial _

/-- A run whose sections are all handled has counted as many programmes as it has given. -/
theorem programmes_run {σ : Type} [ByteSource σ] {source : σ}
    (h : ∀ e, (run settings now source).fault ≠ some (.decoder e)) :
    (run settings now source).state.decoder.counters.programmes =
      (run settings now source).programmes.length := by
  obtain ⟨hevents, hstate, hfault⟩ := run_handled settings now source
  have hstart : Accounts settings [] GrabState.initial.decoder.counters GrabState.initial.touches :=
    ⟨rfl, rfl, rfl⟩
  rw [hfault, ← not_exists, exists_decoder_fault, Decidable.not_not] at h
  obtain ⟨-, hprogrammes⟩ := handleSections_end hstart h
  rw [hstate, hprogrammes, ← hevents]
  exact Int.zero_add _

end Grabber

/-! ### The document of a run -/

def Xmltv.Zone.IsNear (zone : Xmltv.Zone) : Prop :=
  ∀ t, -86400 < zone.offset t ∧ zone.offset t < 86400

theorem Xmltv.formatTime_isOk {zone : Xmltv.Zone} (near : zone.IsNear) {t : Int}
    (early : -3600000000 ≤ t) (late : t ≤ 2302000000) :
    ∃ stamp, formatTime zone t = .ok stamp := by
  obtain ⟨west, east⟩ := near t
  unfold formatTime
  generalize zone.offset t = offset at west east
  have hin : Instant.inCalendar (t + offset) = true :=
    Calendar.Instant.inCalendar_iff.mpr (by omega)
  exact ⟨_, by rw [Calendar.Instant.shift_eq hin]; rfl⟩

/-- The times of a programme that is given are in the calendar of every zone. -/
theorem Programme.IsGiven.exists_shows {registry : Text.Registry} {options : Options}
    {settings : Settings} (accepted : options.check registry = .ok settings) {zone : Xmltv.Zone}
    (near : zone.IsNear) (ident : Int → String) {now : Instant} {p : Programme}
    (h : p.IsGiven settings now) : ∃ e : Xmltv.Element, e.Shows ident zone p := by
  obtain ⟨info, r, isUpdate, gives⟩ := h
  obtain ⟨low, high, -⟩ := Options.check_eq_ok accepted
  rcases Decoder.times_cases low high r with hnone | ⟨start, stop, htimes, early, ordered, late⟩
  · cases gives.times.symm.trans hnone
  · cases gives.times.symm.trans htimes
    obtain ⟨shownStart, hstart⟩ := Xmltv.formatTime_isOk near early (Int.le_trans ordered late)
    obtain ⟨shownStop, hstop⟩ := Xmltv.formatTime_isOk near (Int.le_trans early ordered) late
    exact Xmltv.exists_shows ident gives.isFilled hstart hstop

theorem Xmltv.exists_elements {ident : Int → String} {zone : Xmltv.Zone}
    {programmes : List Programme} (h : ∀ p ∈ programmes, ∃ e : Element, e.Shows ident zone p) :
    ∃ elements, List.Forall₂ (Element.Shows ident zone) programmes elements := by
  induction programmes with
  | nil => exact ⟨[], .nil⟩
  | cons p rest ih =>
    obtain ⟨hp, hrest⟩ := List.forall_mem_cons.mp h
    obtain ⟨e, shows⟩ := hp
    obtain ⟨elements, hall⟩ := ih hrest
    exact ⟨e :: elements, .cons shows hall⟩

/-- The programmes of a run make a document with one head, their elements in order and one end,
which reads back as one container of them. The document is ended however the run ends, and the fault
that ends the run, if one does, is passed on. The writer and, unless decoding breaks off in a
section, the run have counted as many programmes. However often a document is opened and closed, it
has its head once and then its end once. -/
theorem run_document {σ : Type} [ByteSource σ] {registry : Text.Registry} {options : Options}
    {settings : Settings} (accepted : options.check registry = .ok settings) {zone : Xmltv.Zone}
    (near : zone.IsNear) (idents : Channels.Idents) (now : Instant) (source : σ) :
    let run := Grabber.run settings now source
    let (document, fault) :=
      Guide.ofProgrammes (Channels.ident idents) zone [] run.programmes run.fault
    (∃ elements : List Xmltv.Element,
      List.Forall₂ (Xmltv.Element.Shows (Channels.ident idents) zone) run.programmes elements ∧
      fault = run.fault.map .run ∧
      document.text = Xmltv.head ++ String.join (elements.map (·.text)) ++ Xmltv.tail ∧
      document.text = Xmltv.declaration ++ Xmltv.documentMarkup (elements.map (·.text)) ∧
      Markup.read (Xmltv.documentMarkup (elements.map (·.text))) =
        some (Xmltv.documentNodes (elements.map (·.node))) ∧
      document.writer = ⟨true, true, elements.length⟩ ∧
      ((∀ e, run.fault ≠ some (.decoder e)) →
        run.state.decoder.counters.programmes = elements.length)) ∧
    ∀ calls : List Xmltv.Call, let written := Xmltv.Writer.fresh.written calls
      written <+: [Xmltv.head, Xmltv.tail] ∧ (Xmltv.head ∈ written ↔ .opens ∈ calls) ∧
        (Xmltv.tail ∈ written ↔ .closes ∈ Xmltv.Writer.fromOpening calls) := by
  intro run
  obtain ⟨elements, hall⟩ := Xmltv.exists_elements fun p hp =>
    (Grabber.run_given settings now source p hp).exists_shows accepted near (Channels.ident idents)
  rw [Guide.ofProgrammes_eq hall run.fault]
  refine ⟨⟨elements, hall, rfl, rfl, ?_, Xmltv.read_documentMarkup hall, rfl, fun hends => ?_⟩,
    Xmltv.Writer.written_calls⟩
  · rw [Xmltv.head_eq, Xmltv.documentMarkup]
    simp only [String.append_assoc]
  · rw [← hall.length_eq]
    exact Grabber.programmes_run hends

/-- News, and the header of a section for which there is no room. -/
def newsThenTooLarge : Octets := newsSection.bytes ++ [0x4E, 0xFF, 0xFF]

def newsProgramme : Programme :=
  { Programme.blank 1 1 1709294400 1709296200 with
    version := 3
    runningStatus := 4
    titles := [⟨"en", "News"⟩] }

theorem run_newsThenTooLarge :
    let run := Grabber.run .standard noon (Delivery.mk newsThenTooLarge [])
    run.programmes = [newsProgramme] ∧ run.fault = some (.tooLarge ⟨4098, 4096⟩) := by
  let info : EventSection :=
    ⟨0x4E, 1, 3, true, 0, 0, 1, 0x233A, 0, 0x4E, newsRecord.encode ++ oldRecord.encode⟩
  have hinfo : Settings.standard.events? newsSection = some info :=
    Grabber.events?_eq_some.mpr ⟨by decide, by decide +kernel, rfl⟩
  have hevents : info.events = ⟨[newsRecord, oldRecord], none⟩ :=
    EventRecord.walkFrom_pair fits_newsRecord fits_oldRecord 0
  have hdecoded : Decoder.inTurn .standard noon .initial [info] = ([newsProgramme], none) := by
    rw [Decoder.inTurn, Decoder.decode_of_events hevents]
    decide +kernel
  have hlarge : Scan.scanFrom 4096 0 [0x4E, 0xFF, 0xFF] = ⟨[], .tooLarge ⟨4098, 4096⟩, 0⟩ :=
    Scan.scanFrom_tooLarge (by decide) (by decide) (by decide) (by decide)
  have hscan : Scan.ofBytes Settings.standard.bufferCapacity newsThenTooLarge =
      ⟨[⟨newsSection, 0⟩], .tooLarge ⟨4098, 4096⟩, 0⟩ := by
    have hsection := @Scan.scanFrom_section 4096 0 newsSection (by decide) (by decide)
      [0x4E, 0xFF, 0xFF]
    rwa [hlarge] at hsection
  have hfound : [(⟨newsSection, 0⟩ : Found)].filterMap
      (fun s => Settings.standard.events? s.found) = [info] := by
    simp [hinfo]
  obtain ⟨hprogrammes, hfault⟩ := Grabber.run_inTurn .standard noon
    (Delivery.delivers ⟨newsThenTooLarge, []⟩ (by decide)) (by decide)
  rw [hscan, hfound, hdecoded] at hprogrammes hfault
  exact ⟨hprogrammes, hfault⟩

def shiftingZone : Xmltv.Zone := ⟨fun t => if t < noon + 600 then 3600 else 7200⟩

theorem isNear_shiftingZone : shiftingZone.IsNear := by
  intro t
  dsimp only [shiftingZone]
  split <;> decide

/-- The clocks change during the news, and the run breaks off after them. -/
theorem run_document_tooLarge :
    Options.standard.check .known = .ok .standard ∧ shiftingZone.IsNear ∧
      let run := Grabber.run .standard noon (Delivery.mk newsThenTooLarge [])
      let (document, fault) := Guide.ofProgrammes (Channels.ident [(1, "news")]) shiftingZone []
        run.programmes run.fault
      fault = some (.run (.tooLarge ⟨4098, 4096⟩)) ∧
        run.state.decoder.counters.programmes = 1 ∧ document.writer.programmes = 1 ∧
        document.text =
          "<?xml version=\"1.0\" encoding=\"UTF-8\"?>\n<!DOCTYPE tv SYSTEM \"xmltv.dtd\">\n" ++
            "<tv generator-info-name=\"dvb-epg-gen\">\n" ++
            "<programme channel=\"news\" start=\"20240301130000 +0100\" " ++
            "stop=\"20240301143000 +0200\">\n\t<title lang=\"en\">News</title>\n</programme>\n" ++
            "</tv>\n" := by
  have hcheck : Options.standard.check .known = .ok .standard := rfl
  obtain ⟨hprogrammes, hfault⟩ := run_newsThenTooLarge
  obtain ⟨⟨elements, hall, hpassed, htext, -, -, hwriter, hcount⟩, -⟩ :=
    run_document hcheck isNear_shiftingZone [(1, "news")] noon (Delivery.mk newsThenTooLarge [])
  have hcounted := hcount (by rw [hfault]; nofun)
  rw [hprogrammes] at hall
  obtain ⟨e, rest, shows, hrest, rfl⟩ := List.forall₂_cons_left_iff.mp hall
  cases hrest
  have helement : e.text = "<programme channel=\"news\" start=\"20240301130000 +0100\" " ++
      "stop=\"20240301143000 +0200\">\n\t<title lang=\"en\">News</title>\n</programme>\n" := by
    have hformat : Xmltv.formatProgramme newsProgramme "news" shiftingZone = .ok e.text :=
      shows.formatted
    exact Except.ok.inj (hformat.symm.trans rfl)
  refine ⟨hcheck, isNear_shiftingZone, ?_, hcounted, ?_, ?_⟩
  · rw [hpassed, hfault]
    rfl
  · rw [hwriter]
    rfl
  · rw [htext, List.map_cons, List.map_nil, helement]
    rfl

end BroadcastGuide
