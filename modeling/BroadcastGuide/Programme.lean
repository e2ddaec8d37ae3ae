import BroadcastGuide.Calendar.Instant
import BroadcastGuide.Text.Quoted

/-!
One entry of the programme guide.
-/

namespace BroadcastGuide

structure LangText where
  language : String
  text : String
  deriving DecidableEq, Repr

structure Crid where
  kind : String
  value : String
  deriving DecidableEq, Repr

/-- A programme. Broadcast texts and languages are escaped as markup carries them; labels are plain.
Lists hold every occurrence in the order sent. -/
structure Programme where
  serviceId : Int
  eventId : Int
  version : Int
  start : Calendar.Instant
  stop : Calendar.Instant
  runningStatus : Int
  freeCaMode : Bool
  /-- The programme takes the place of an earlier version. -/
  isUpdate : Bool
  titles : List LangText
  subtitles : List LangText
  descriptions : List LangText
  categories : List String
  /-- The language of the first audio component. -/
  language : Option String
  videoAspect : Option String
  audioMode : Option String
  /-- Languages of the teletext subtitles. -/
  subtitleLanguages : List String
  ratings : List Int
  crids : List Crid
  /-- Tags and sizes of the descriptors that nobody knows. -/
  unknownDescriptors : List (Int × Int)
  deriving DecidableEq, Repr

namespace Programme

def blank (serviceId eventId : Int) (start stop : Calendar.Instant) : Programme :=
  { serviceId, eventId, start, stop
    version := 0, runningStatus := 0, freeCaMode := false, isUpdate := false
    titles := [], subtitles := [], descriptions := [], categories := []
    language := none, videoAspect := none, audioMode := none
    subtitleLanguages := [], ratings := [], crids := [], unknownDescriptors := [] }

variable (p : Programme)

def title? : Option String := p.titles.head?.map (·.text)
def titleLanguage? : Option String := p.titles.head?.map (·.language)
def subtitle? : Option String := p.subtitles.head?.map (·.text)
def description? : Option String := p.descriptions.head?.map (·.text)
def descriptionLanguage? : Option String := p.descriptions.head?.map (·.language)
def teletextLanguage? : Option String := p.subtitleLanguages.head?
def rating? : Option Int := p.ratings.head?

def duration : Int := p.stop - p.start

def summary : String :=
  let title := match p.title? with
    | some t => Text.quoted t
    | none => "None"
  "ProgrammeEvent(sid=" ++ toString p.serviceId ++ ", eid=" ++ toString p.eventId ++ ", start=" ++
    Calendar.Instant.iso p.start ++ ", title=" ++ title ++ ")"

end Programme

end BroadcastGuide
