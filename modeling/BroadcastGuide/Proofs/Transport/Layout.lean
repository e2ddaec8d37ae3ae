import BroadcastGuide.Transport.SectionSource

/-! Sections laid out in the packets of one stream, with packets that are lost on the way and
packets that come in between. -/

namespace BroadcastGuide.Transport

/-- A section as packets carry it. Its first byte tells it from stuffing. -/
structure WholeSection where
  bytes : Octets
  length_bytes : bytes.length = 3 + declaredLength bytes
  start : bytes.head? ≠ some 0xFF

structure Sent where
  packet : Packet
  arrives : Bool

structure Placed where
  content : WholeSection
  carriers : List Sent

structure Unfinished where
  rest : Octets
  carriers : List Sent

namespace Unfinished

def none : Unfinished := ⟨[], []⟩

/-- Nothing, or a section of which a packet carries the end. -/
def endingIn (rest : Octets) (s : Sent) : Unfinished := ⟨rest, if rest = [] then [] else [s]⟩

end Unfinished

/-- Sections that lie in one packet from their first byte to their last. -/
def Placed.within (s : Sent) (sections : List WholeSection) : List Placed :=
  sections.map fun content => ⟨content, [s]⟩

/-- The ways for a packet to carry sections, from the unfinished section and the sections to place
ahead of it to those after it. A packet in which a section starts has a pointer, the number of bytes
ahead of the first one that does; stuffing goes from the end of a section to the end of the
packet. -/
inductive Carries (s : Sent) : Unfinished → List Placed → Unfinished → List Placed → Prop
  /-- More of the unfinished section, but not all of it. -/
  | continues {piece rest : Octets} {carriers : List Sent} {placed : List Placed}
      (plain : s.packet.startsUnit = false) (some_piece : piece ≠ []) (some_rest : rest ≠ [])
      (payload : s.packet.payload = piece) :
      Carries s ⟨piece ++ rest, s :: carriers⟩ placed ⟨rest, carriers⟩ placed
  /-- The end of the unfinished section. -/
  | ends {rest : Octets} {placed : List Placed} (stuffing : Nat)
      (plain : s.packet.startsUnit = false) (some_rest : rest ≠ [])
      (payload : s.packet.payload = rest ++ List.replicate stuffing 0xFF) :
      Carries s ⟨rest, [s]⟩ placed .none placed
  /-- Whole sections, after the end of an unfinished one if there is one. -/
  | whole {rest : Octets} {placed : List Placed} (sections : List WholeSection) (stuffing : Nat)
      (unit : s.packet.startsUnit = true) (some_sections : sections ≠ [])
      (payload : s.packet.payload = UInt8.ofNat rest.length ::
        (rest ++ sections.flatMap WholeSection.bytes ++ List.replicate stuffing 0xFF)) :
      Carries s (.endingIn rest s) (Placed.within s sections ++ placed) .none placed
  /-- The beginning of a section, after those that the packet carries whole or to their end. -/
  | begins {rest : Octets} {carriers : List Sent} {placed : List Placed}
      (sections : List WholeSection) (content : WholeSection) (head tail : Octets)
      (unit : s.packet.startsUnit = true) (split : content.bytes = head ++ tail)
      (some_head : head ≠ []) (some_tail : tail ≠ [])
      (payload : s.packet.payload = UInt8.ofNat rest.length ::
        (rest ++ sections.flatMap WholeSection.bytes ++ head)) :
      Carries s (.endingIn rest s)
        (Placed.within s sections ++ ⟨content, s :: carriers⟩ :: placed) ⟨tail, carriers⟩ placed

/-- The packets of a stream count modulo sixteen. -/
structure Packet.IsNth (pid n : Nat) (p : Packet) : Prop where
  pid_eq : p.pid = pid
  counter_eq : p.counter = n % 16
  no_error : p.hasError = false
  one_le : 1 ≤ p.payload.length
  le_room : p.payload.length ≤ 184

/-- Packets of a stream, counted from `n` on, that carry the rest of an unfinished section and then
place sections one right after the other. -/
inductive Layout (pid : Nat) : Nat → Unfinished → List Placed → List Sent → Prop
  | done (n : Nat) : Layout pid n .none [] []
  | packet {n : Nat} {s : Sent} {ahead after : Unfinished} {placed later : List Placed}
      {sent : List Sent} (nth : s.packet.IsNth pid n) (carries : Carries s ahead placed after later)
      (rest : Layout pid (n + 1) after later sent) : Layout pid n ahead placed (s :: sent)

def survivors (sent : List Sent) : List Packet := (sent.filter (·.arrives)).map (·.packet)

/-- The lengths of the runs that are lost between two packets that arrive. So many packets have been
lost since the last one that arrived, if one has. -/
def lostRuns : Option Nat → List Sent → List Nat
  | _, [] => []
  | since, s :: rest =>
    if s.arrives then
      match since with
      | some (k + 1) => (k + 1) :: lostRuns (some 0) rest
      | _ => lostRuns (some 0) rest
    else lostRuns (since.map (· + 1)) rest

/-- A packet of another stream, without payload, with an error, or with the counter of the packet
accepted last. -/
def Packet.IsNoise (pid : Nat) (last : Option Nat) (p : Packet) : Prop :=
  p.pid ≠ pid ∨ p.payload = [] ∨ p.hasError = true ∨ last = some p.counter

/-- The packets that a receiver gets: those that arrive and, anywhere among them, noise. -/
inductive Arrival (pid : Nat) : Option Nat → List Packet → List Packet → Prop
  | done (last : Option Nat) : Arrival pid last [] []
  | packet {last : Option Nat} {p : Packet} {arriving received : List Packet}
      (rest : Arrival pid (some p.counter) arriving received) :
      Arrival pid last (p :: arriving) (p :: received)
  | noise {last : Option Nat} {p : Packet} {arriving received : List Packet}
      (noise : p.IsNoise pid last) (rest : Arrival pid last arriving received) :
      Arrival pid last arriving (p :: received)

def Placed.isDelivered (p : Placed) : Bool := p.carriers.all (·.arrives)

def delivered (placed : List Placed) : Octets :=
  (placed.filter (·.isDelivered)).flatMap (·.content.bytes)

theorem delivered_append (placed later : List Placed) :
    delivered (placed ++ later) = delivered placed ++ delivered later := by
  rw [delivered, List.filter_append, List.flatMap_append]
  rfl

theorem delivered_cons (p : Placed) (later : List Placed) :
    delivered (p :: later) =
      (if p.isDelivered then p.content.bytes else []) ++ delivered later := by
  cases h : p.isDelivered with
  | false => simp [delivered, h]
  | true => simp [delivered, h]

theorem delivered_within (s : Sent) (sections : List WholeSection) :
    delivered (Placed.within s sections) =
      if s.arrives then sections.flatMap (·.bytes) else [] := by
  induction sections with
  | nil => cases s.arrives <;> rfl
  | cons content rest ih =>
    have hcons : delivered (Placed.within s (content :: rest)) = _ :=
      delivered_cons ⟨content, [s]⟩ (Placed.within s rest)
    rw [hcons, ih]
    cases h : s.arrives with
    | false => simp [Placed.isDelivered, h]
    | true => simp [Placed.isDelivered, h]

/-- If nothing is lost, all sections are delivered. -/
theorem delivered_of_arrives {placed : List Placed}
    (h : ∀ p ∈ placed, ∀ s ∈ p.carriers, s.arrives = true) :
    delivered placed = placed.flatMap (·.content.bytes) := by
  have hall : placed.filter (·.isDelivered) = placed :=
    List.filter_eq_self.mpr fun p hp => List.all_eq_true.mpr (h p hp)
  rw [delivered, hall]

end BroadcastGuide.Transport
