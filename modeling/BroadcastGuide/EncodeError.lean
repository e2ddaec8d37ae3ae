/-!
Causes for which a value has no place in the field that should carry it.
-/

namespace BroadcastGuide

inductive EncodeError
  | bcdRange (value : Int)
  | versionRange (version : Int)
  | bodyTooLong (length : Nat)
  /-- A number that one byte cannot hold. -/
  | byteRange
  /-- A number that two bytes cannot hold. -/
  | wordRange
  | payloadTooLarge (size : Nat)
  deriving DecidableEq, Repr

def EncodeError.message : EncodeError → String
  | .bcdRange v => s!"BCD value must be 0-99, got {v}"
  | .versionRange v => s!"Version must be 0-31, got {v}"
  | .bodyTooLong n => s!"Section body too long: {n}"
  | .byteRange => "byte must be in range(0, 256)"
  | .wordRange => "the field holds sixteen bits"
  | .payloadTooLarge n => s!"Payload too large: {n}"

end BroadcastGuide
