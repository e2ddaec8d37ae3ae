import BroadcastGuide.Octets

/-!
The descriptors of an event, by what they say.
-/

namespace BroadcastGuide

structure ShortEvent where
  language : String
  name : Octets
  text : Octets
  deriving DecidableEq, Repr

structure EventItem where
  label : Octets
  value : Octets
  deriving DecidableEq, Repr

structure ExtendedEvent where
  number : Nat
  last : Nat
  language : String
  items : List EventItem
  text : Octets
  /-- A fragment that is all zero carries nothing. -/
  isNonEmpty : Bool
  deriving DecidableEq, Repr

structure Component where
  streamContent : Nat
  componentType : Nat
  componentTag : Nat
  language : String
  text : Octets
  deriving DecidableEq, Repr

def Component.aspectCode (c : Component) : Nat := (c.componentType + 3) % 4

/-- A content code and a code of the broadcaster's own. -/
structure ContentEntry where
  code : Nat
  userCode : Nat
  deriving DecidableEq, Repr

structure RatingEntry where
  country : String
  rating : Nat
  deriving DecidableEq, Repr

inductive CridLocation
  /-- The reference is carried here. -/
  | carried (value : Octets)
  /-- A table elsewhere has it; the location code is not zero. -/
  | elsewhere (location reference : Nat)
  deriving DecidableEq, Repr

structure CridEntry where
  kind : Nat
  location : CridLocation
  deriving DecidableEq, Repr

inductive Descriptor
  | shortEvent (d : ShortEvent)
  | extendedEvent (d : ExtendedEvent)
  | component (d : Component)
  | content (entries : List ContentEntry)
  | parentalRating (entries : List RatingEntry)
  /-- Names the owner of the private descriptors after it. -/
  | privateDataSpecifier (value : Nat)
  | contentIdentifier (entries : List CridEntry)
  /-- A descriptor of any other tag, payload as sent. -/
  | other (tag : UInt8) (payload : Octets)
  deriving DecidableEq, Repr

namespace Descriptor

def shortEventTag : UInt8 := 0x4D
def extendedEventTag : UInt8 := 0x4E
def componentTag : UInt8 := 0x50
def contentTag : UInt8 := 0x54
def parentalRatingTag : UInt8 := 0x55
def privateDataSpecifierTag : UInt8 := 0x5F
def contentIdentifierTag : UInt8 := 0x76

def tag : Descriptor → UInt8
  | shortEvent _ => shortEventTag
  | extendedEvent _ => extendedEventTag
  | component _ => componentTag
  | content _ => contentTag
  | parentalRating _ => parentalRatingTag
  | privateDataSpecifier _ => privateDataSpecifierTag
  | contentIdentifier _ => contentIdentifierTag
  | other tag _ => tag

end Descriptor

end BroadcastGuide
