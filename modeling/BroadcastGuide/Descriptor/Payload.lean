import BroadcastGuide.DecodeError
import BroadcastGuide.Descriptor.Basic
import BroadcastGuide.Language

/-!
Descriptor payloads, read from the left. A field that does not fit into what is left is an error
that tells how much the payload would need.
-/

namespace BroadcastGuide

/-- The bytes of a payload that are still to be read, and how many were read. -/
structure Unread where
  offset : Nat
  bytes : Octets
  deriving DecidableEq, Repr

namespace Unread

def ofPayload (payload : Octets) : Unread := ⟨0, payload⟩

def take (u : Unread) (field : PayloadField) (n : Nat) : Except DecodeError (Octets × Unread) :=
  if u.bytes.length < n then .error (.fieldOverrun field (u.offset + n) (u.offset + u.bytes.length))
  else .ok (u.bytes.take n, ⟨u.offset + n, u.bytes.drop n⟩)

def byte (u : Unread) (field : PayloadField) : Except DecodeError (UInt8 × Unread) :=
  match u.bytes with
  | [] => .error (.fieldOverrun field (u.offset + 1) u.offset)
  | b :: rest => .ok (b, ⟨u.offset + 1, rest⟩)

/-- Reads a field that follows a byte with its size. -/
def sized (u : Unread) (size field : PayloadField) : Except DecodeError (Octets × Unread) :=
  match u.byte size with
  | .error e => .error e
  | .ok (n, rest) => rest.take field n.toNat

theorem length_take_lt {u : Unread} {field : PayloadField} {n : Nat} {bytes : Octets}
    {rest : Unread} (h : u.take field n = .ok (bytes, rest)) :
    rest.bytes.length + n = u.bytes.length := by
  unfold take at h
  split at h
  · cases h
  · cases h
    simp only [List.length_drop]
    omega

theorem length_sized_lt {u : Unread} {size field : PayloadField} {bytes : Octets} {rest : Unread}
    (h : u.sized size field = .ok (bytes, rest)) : rest.bytes.length < u.bytes.length := by
  unfold sized byte at h
  split at h
  · cases h
  · rename_i hb
    split at hb
    · cases hb
    · rename_i he
      cases hb
      have := length_take_lt h
      simp only [he, List.length_cons] at this ⊢
      omega

end Unread

namespace ShortEvent

def ofPayload (payload : Octets) : Except DecodeError ShortEvent := do
  let (language, u) ← (Unread.ofPayload payload).take .shortEventLanguage 3
  let (name, u) ← u.sized .eventNameLength .eventName
  let (text, _) ← u.sized .textLength .shortEventText
  return ⟨Language.ofBytes language, name, text⟩

end ShortEvent

namespace EventItem

def readAll (u : Unread) : Except DecodeError (List EventItem) :=
  if u.bytes.isEmpty then .ok []
  else
    match _h₁ : u.sized .itemDescriptionLength .itemDescription with
    | .error e => .error e
    | .ok (label, afterLabel) =>
      match _h₂ : afterLabel.sized .itemLength .item with
      | .error e => .error e
      | .ok (value, rest) => (readAll rest).map (⟨label, value⟩ :: ·)
termination_by u.bytes.length
decreasing_by
  have h₁ := Unread.length_sized_lt _h₁
  have h₂ := Unread.length_sized_lt _h₂
  omega

end EventItem

namespace ExtendedEvent

def ofPayload (payload : Octets) : Except DecodeError ExtendedEvent := do
  let (head, u) ← (Unread.ofPayload payload).take .extendedEventHeader 5
  let numbers := (head.headD 0).toNat
  let itemsLength := (head.getD 4 0).toNat
  let firstByte := u.bytes.headD 0
  let (block, u) ← u.take .extendedEventItems itemsLength
  let items ← EventItem.readAll (Unread.ofPayload block)
  let (text, _) ← u.sized .extendedEventTextLength .extendedEventText
  return {
    number := numbers / 16
    last := numbers % 16
    language := Language.ofBytes ((head.drop 1).take 3)
    items := items
    text := text
    isNonEmpty := numbers != 0 || itemsLength != 0 || firstByte != 0 }

end ExtendedEvent

namespace Component

def ofPayload (payload : Octets) : Except DecodeError Component := do
  let (head, u) ← (Unread.ofPayload payload).take .componentHeader 6
  return {
    streamContent := (head.headD 0).toNat % 16
    componentType := (head.getD 1 0).toNat
    componentTag := (head.getD 2 0).toNat
    language := Language.ofBytes (head.drop 3)
    text := u.bytes }

end Component

namespace ContentEntry

def pairs : Octets → List ContentEntry
  | code :: user :: rest => ⟨code.toNat, user.toNat⟩ :: pairs rest
  | _ => []

def ofPayload (payload : Octets) : Except DecodeError (List ContentEntry) :=
  if payload.length % 2 = 0 then .ok (pairs payload)
  else .error (.oddContentLength payload.length)

end ContentEntry

namespace RatingEntry

def quads : Octets → List RatingEntry
  | a :: b :: c :: rating :: rest => ⟨Language.ofBytes [a, b, c], rating.toNat⟩ :: quads rest
  | _ => []

def ofPayload (payload : Octets) : Except DecodeError (List RatingEntry) :=
  if payload.length % 4 = 0 then .ok (quads payload)
  else .error (.ratingLength payload.length)

end RatingEntry

namespace CridEntry

/-- The entries that fill a payload. The two low bits of an entry's first byte tell whether it
carries its reference. -/
def entries (u : Unread) : Except DecodeError (List CridEntry) :=
  match _h : u.bytes with
  | [] => .ok []
  | b :: rest =>
    let kind := b.toNat / 4
    let u := ⟨u.offset + 1, rest⟩
    if b.toNat % 4 = 0 then
      match _h₁ : Unread.sized u .cridLength .crid with
      | .error e => .error e
      | .ok (value, after) => (entries after).map (⟨kind, .carried value⟩ :: ·)
    else
      match _h₁ : Unread.take u .cridReference 2 with
      | .error e => .error e
      | .ok (reference, after) =>
        (entries after).map (⟨kind, .elsewhere (b.toNat % 4) (Octets.value reference)⟩ :: ·)
termination_by u.bytes.length
decreasing_by
  · have := Unread.length_sized_lt _h₁
    simp only [_h, List.length_cons]
    simp only [u] at this
    omega
  · have := Unread.length_take_lt _h₁
    simp only [_h, List.length_cons]
    simp only [u] at this
    omega

def ofPayload (payload : Octets) : Except DecodeError (List CridEntry) :=
  entries (Unread.ofPayload payload)

end CridEntry

namespace Descriptor

def specifierOfPayload (payload : Octets) : Except DecodeError Nat := do
  let (bytes, _) ← (Unread.ofPayload payload).take .privateDataSpecifier 4
  return Octets.value bytes

def ofPayload (tag : UInt8) (payload : Octets) : Except DecodeError Descriptor :=
  if tag = shortEventTag then (ShortEvent.ofPayload payload).map shortEvent
  else if tag = extendedEventTag then (ExtendedEvent.ofPayload payload).map extendedEvent
  else if tag = componentTag then (Component.ofPayload payload).map component
  else if tag = contentTag then (ContentEntry.ofPayload payload).map content
  else if tag = parentalRatingTag then (RatingEntry.ofPayload payload).map parentalRating
  else if tag = privateDataSpecifierTag then (specifierOfPayload payload).map privateDataSpecifier
  else if tag = contentIdentifierTag then (CridEntry.ofPayload payload).map contentIdentifier
  else .ok (other tag payload)

end Descriptor

end BroadcastGuide
