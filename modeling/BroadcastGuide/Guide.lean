import BroadcastGuide.Grabber
import BroadcastGuide.Xmltv

/-!
A whole guide: the document with the channels and programmes of a run. The document is ended however
the run ends.
-/

namespace BroadcastGuide

open Calendar (OutOfCalendar)

structure Guide where
  text : String
  writer : Xmltv.Writer
  deriving DecidableEq, Repr

inductive GuideFault
  /-- The run that gives the programmes breaks off. -/
  | run (fault : GrabFault)
  /-- The calendar does not have the local times of a programme. -/
  | outOfCalendar
  deriving DecidableEq, Repr

namespace Guide

def blank : Guide := ⟨"", .fresh⟩

def enter (g : Guide) : Guide :=
  let (writer, text) := g.writer.openDocument
  ⟨g.text ++ text, writer⟩

def exit (g : Guide) : Guide :=
  let (writer, text) := g.writer.closeDocument
  ⟨g.text ++ text, writer⟩

/-- Writes within a document. The document is ended whether or not the writing breaks off, and the
fault, if there is one, is passed on. -/
def within (g : Guide) (write : Guide → Guide × Option GuideFault) : Guide × Option GuideFault :=
  let (written, fault) := write g.enter
  (written.exit, fault)

def channel (g : Guide) (ident : Int → String) (service : Int) (name : String) : Guide :=
  { g with text := g.text ++ Xmltv.formatChannel (ident service) name }

/-- Writes a programme, all of it or nothing. -/
def programme (g : Guide) (ident : Int → String) (zone : Xmltv.Zone) (p : Programme) :
    Except OutOfCalendar Guide :=
  (g.writer.programme p (ident p.serviceId) zone).map fun (writer, text) => ⟨g.text ++ text, writer⟩

def programmes (g : Guide) (ident : Int → String) (zone : Xmltv.Zone) :
    List Programme → Guide × Option GuideFault
  | [] => (g, none)
  | p :: rest =>
    match g.programme ident zone p with
    | .error _ => (g, some .outOfCalendar)
    | .ok next => next.programmes ident zone rest

/-- The document of channels and of the programmes of a run, given how the run ends. -/
def ofProgrammes (ident : Int → String) (zone : Xmltv.Zone) (channels : List (Int × String))
    (programmes : List Programme) (ending : Option GrabFault) : Guide × Option GuideFault :=
  blank.within fun g =>
    let g := channels.foldl (fun g c => g.channel ident c.1 c.2) g
    let (written, fault) := g.programmes ident zone programmes
    (written, fault.or (ending.map .run))

end Guide

end BroadcastGuide
