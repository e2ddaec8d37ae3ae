import BroadcastGuide.Programme
import BroadcastGuide.Text.Markup

/-!
The guide as an XMLTV document: a head, channels and programmes in the order written, and one
closing tag. The child elements of a programme come in the order that the document type demands.
-/

namespace BroadcastGuide.Xmltv

open Calendar (Instant OutOfCalendar)
open Numeral (padded hexLower)
open Text (escape escapeAttribute)

/-- A zone tells for each instant how many seconds its time is ahead of universal time. -/
structure Zone where
  offset : Instant → Int

namespace Zone

/-- A zone that never puts its clocks forward or back. -/
def fixed (seconds : Int) : Zone := ⟨fun _ => seconds⟩

def universal : Zone := fixed 0

end Zone

/-- An offset from universal time, with seconds only where there are some. -/
def zoneText (offset : Int) : String :=
  let n := (offset.natAbs : Int)
  let seconds := if n % 60 = 0 then "" else padded 2 (n % 60)
  (if offset < 0 then "-" else "+") ++ padded 2 (n / 3600) ++ padded 2 (n % 3600 / 60) ++ seconds

def localText (t : Instant) : String :=
  padded 4 t.date.year ++ padded 2 t.date.month ++ padded 2 t.date.day ++
    padded 2 t.hour ++ padded 2 t.minute ++ padded 2 t.second

/-- A time stamp in a zone, by the offset that holds there at the instant. -/
def formatTime (zone : Zone) (t : Instant) : Except OutOfCalendar String :=
  (t.shift (zone.offset t)).map fun there => localText there ++ " " ++ zoneText (zone.offset t)

/-- A line of text elements, one for each text. -/
def textLines (element : String) (texts : List LangText) : List String :=
  texts.map fun t =>
    "\t<" ++ element ++ " lang=\"" ++ t.language ++ "\">" ++ t.text ++ "</" ++ element ++ ">"

def unknownLines (unknown : List (Int × Int)) : List String :=
  unknown.map fun (tag, size) =>
    "\t<!--Unknown_Please_Report ID=\"" ++ hexLower 0 tag ++ "\" Len=\"" ++ toString size ++
      "\" -->"

def nested (outer opening inner text : String) : List String :=
  ["\t<" ++ opening ++ ">", "\t\t<" ++ inner ++ ">" ++ text ++ "</" ++ inner ++ ">",
    "\t</" ++ outer ++ ">"]

/-- A value that is there and not empty. -/
def shown (value : Option String) : List String := (value.filter (!·.isEmpty)).toList

def childLines (p : Programme) : List String :=
  textLines "title" p.titles ++ unknownLines p.unknownDescriptors ++
    textLines "sub-title" p.subtitles ++ textLines "desc" p.descriptions ++
    p.categories.map (fun c => "\t<category>" ++ escape c ++ "</category>") ++
    (shown p.language).map (fun l => "\t<language>" ++ l ++ "</language>") ++
    (shown p.videoAspect).flatMap (fun a => nested "video" "video" "aspect" (escape a)) ++
    (shown p.audioMode).flatMap (fun m => nested "audio" "audio" "stereo" (escape m)) ++
    p.subtitleLanguages.flatMap
      (nested "subtitles" "subtitles type=\"teletext\"" "language") ++
    p.ratings.flatMap
      (fun r => nested "rating" "rating system=\"dvb\"" "value" (toString r)) ++
    p.crids.map
      (fun c => "\t<crid type=\"" ++ escapeAttribute c.kind ++ "\">" ++ c.value ++ "</crid>")

def openingLine (channel start stop : String) : String :=
  "<programme channel=\"" ++ escapeAttribute channel ++ "\" start=\"" ++ start ++ "\" stop=\"" ++
    stop ++ "\">"

def formatProgramme (p : Programme) (channel : String) (zone : Zone) :
    Except OutOfCalendar String := do
  let start ← formatTime zone p.start
  let stop ← formatTime zone p.stop
  let lines := openingLine channel start stop :: childLines p ++ ["</programme>"]
  return String.join (lines.map (· ++ "\n"))

def head : String :=
  "<?xml version=\"1.0\" encoding=\"UTF-8\"?>\n<!DOCTYPE tv SYSTEM \"xmltv.dtd\">\n" ++
    "<tv generator-info-name=\"dvb-epg-gen\">\n"

def tail : String := "</tv>\n"

def formatChannel (ident name : String) : String :=
  "<channel id=\"" ++ escapeAttribute ident ++ "\">\n\t<display-name>" ++ escape name ++
    "</display-name>\n</channel>\n"

/-- How far a document has come. -/
structure Writer where
  isOpened : Bool
  isClosed : Bool
  programmes : Nat
  deriving DecidableEq, Repr

namespace Writer

def fresh : Writer := ⟨false, false, 0⟩

/-- Writes the head, once. -/
def openDocument (w : Writer) : Writer × String :=
  if w.isOpened then (w, "") else ({ w with isOpened := true }, head)

/-- Writes the closing tag, once and not without a head. -/
def closeDocument (w : Writer) : Writer × String :=
  if w.isClosed || !w.isOpened then (w, "") else ({ w with isClosed := true }, tail)

def programme (w : Writer) (p : Programme) (channel : String) (zone : Zone) :
    Except OutOfCalendar (Writer × String) :=
  (formatProgramme p channel zone).map fun text => ({ w with programmes := w.programmes + 1 }, text)

end Writer

end BroadcastGuide.Xmltv
