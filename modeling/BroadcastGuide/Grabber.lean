import BroadcastGuide.Decoder
import BroadcastGuide.Section.Reader

/-!
The way from a byte source to programmes: sections are framed, filtered by their table, held against
their checksum and decoded. Each intact section tells the source that it is alive.
-/

namespace BroadcastGuide

open Calendar (Instant)

structure GrabState where
  decoder : DecoderState
  /-- How often the source was told that a section is intact. -/
  touches : Nat
  deriving DecidableEq, Repr

namespace GrabState

def initial : GrabState := ⟨DecoderState.initial, 0⟩

def count (s : GrabState) (f : Counters → Counters) : GrabState :=
  { s with decoder := s.decoder.count f }

end GrabState

/-- What a run shows, in the order in which it happens. -/
inductive GrabEvent
  | programme (p : Programme)
  /-- A section is done. -/
  | progress (counters : Counters) (touches : Nat)
  deriving DecidableEq, Repr

/-- Why a run stops before its source is exhausted. -/
inductive GrabFault
  | tooLarge (error : SectionTooLarge)
  | decoder (fault : DecoderFault)
  deriving DecidableEq, Repr

structure Handled where
  state : GrabState
  events : List GrabEvent
  fault : Option GrabFault

structure Grab (σ : Type) where
  events : List GrabEvent
  fault : Option GrabFault
  state : GrabState
  reader : Reader
  source : σ

namespace Grabber

def decodeRaw (settings : Settings) (now : Instant) (state : GrabState) (raw : RawSection) :
    GrabState × Except DecoderFault (List Programme) :=
  if !Table.isEventInformation raw.tableId.toNat then
    (state.count fun c => { c with filtered := c.filtered + 1 }, .ok [])
  else
    match EventSection.ofRaw raw with
    | .error _ => (state.count fun c => { c with decodeErrors := c.decodeErrors + 1 }, .ok [])
    | .ok info =>
      let decoded := Decoder.decode settings now state.decoder info
      ({ state with decoder := decoded.state }, decoded.result)

def handle (settings : Settings) (now : Instant) (state : GrabState) (raw : RawSection) :
    Handled :=
  let state := state.count fun c => { c with packets := c.packets + 1 }
  let (state, result) :=
    if !settings.acceptsTable raw.tableId.toNat then
      (state.count fun c => { c with filtered := c.filtered + 1 }, .ok [])
    else if !raw.isIntact then
      (state.count fun c => { c with crcErrors := c.crcErrors + 1 }, .ok [])
    else decodeRaw settings now { state with touches := state.touches + 1 } raw
  match result with
  | .ok ps =>
    ⟨state, ps.map .programme ++ [.progress state.decoder.counters state.touches], none⟩
  | .error fault => ⟨state, [], some (.decoder fault)⟩

def handleAll {σ : Type} (settings : Settings) (now : Instant) (whole : Reader.Run σ)
    (state : GrabState) : List (Reader.Sighting σ) → Grab σ
  | [] =>
    let fault := match whole.ending with
      | .exhausted => none
      | .tooLarge e => some (.tooLarge e)
    ⟨[], fault, state, whole.reader, whole.source⟩
  | s :: rest =>
    let handled := handle settings now state s.found
    match handled.fault with
    | some fault => ⟨handled.events, some fault, handled.state, s.reader, s.source⟩
    | none =>
      let tail := handleAll settings now whole handled.state rest
      { tail with events := handled.events ++ tail.events }

def run {σ : Type} [ByteSource σ] (settings : Settings) (now : Instant) (source : σ) : Grab σ :=
  let whole := readSections source settings.bufferCapacity
  handleAll settings now whole GrabState.initial whole.sightings

end Grabber

def Grab.programmes {σ : Type} (g : Grab σ) : List Programme :=
  g.events.filterMap fun | .programme p => some p | .progress _ _ => none

end BroadcastGuide
