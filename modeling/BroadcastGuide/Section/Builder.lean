import BroadcastGuide.EncodeError
import BroadcastGuide.Section.Frame

/-!
Sections in long form, built from their header fields and the data of their table.
-/

namespace BroadcastGuide

structure SectionHeader where
  tableId : Int
  /-- Sixteen bits that name what the table is about. -/
  extension : Int
  version : Int
  isCurrent : Bool
  number : Int
  lastNumber : Int
  deriving DecidableEq, Repr

namespace SectionHeader

def octet (n : Int) : Except EncodeError UInt8 :=
  if 0 ≤ n ∧ n ≤ 255 then .ok (UInt8.ofNat n.toNat) else .error .byteRange

def word (n : Int) : Except EncodeError Octets :=
  if 0 ≤ n ∧ n ≤ 65535 then .ok (Octets.ofWord n.toNat) else .error .wordRange

def unsealed (h : SectionHeader) (body : Octets) : Except EncodeError Octets := do
  if h.version < 0 ∨ 31 < h.version then throw (.versionRange h.version)
  let length := 9 + body.length
  if 4095 < length then throw (.bodyTooLong length)
  let tableId ← octet h.tableId
  let extension ← word h.extension
  let number ← octet h.number
  let lastNumber ← octet h.lastNumber
  let flags := 0xC0 + 2 * h.version.toNat + h.isCurrent.toNat
  return tableId :: Octets.ofWord (0xF000 + length) ++ extension ++
    [UInt8.ofNat flags, number, lastNumber] ++ body

def build (h : SectionHeader) (body : Octets) : Except EncodeError Octets :=
  (h.unsealed body).map Checksum.append

end SectionHeader

end BroadcastGuide
