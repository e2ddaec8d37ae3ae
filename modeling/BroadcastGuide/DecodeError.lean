import BroadcastGuide.Calendar.Date
import BroadcastGuide.Numeral.Hexadecimal

/-!
Causes for which a field or a record cannot be decoded, and the wording of each.
-/

namespace BroadcastGuide

inductive PayloadField
  | shortEventLanguage | eventNameLength | eventName | textLength | shortEventText
  | extendedEventHeader | extendedEventItems | itemDescriptionLength | itemDescription
  | itemLength | item | extendedEventTextLength | extendedEventText
  | componentHeader | privateDataSpecifier
  | cridLength | crid | cridReference
  deriving DecidableEq, Repr

def PayloadField.label : PayloadField → String
  | .shortEventLanguage => "short event language"
  | .eventNameLength => "event_name_length"
  | .eventName => "event name"
  | .textLength => "text_length"
  | .shortEventText => "short event text"
  | .extendedEventHeader => "extended event header"
  | .extendedEventItems => "extended event items"
  | .itemDescriptionLength => "item_description_length"
  | .itemDescription => "item description"
  | .itemLength => "item_length"
  | .item => "item"
  | .extendedEventTextLength => "extended event text_length"
  | .extendedEventText => "extended event text"
  | .componentHeader => "component header"
  | .privateDataSpecifier => "private_data_specifier"
  | .cridLength => "crid_length"
  | .crid => "crid"
  | .cridReference => "crid_ref"

inductive DecodeError
  /-- A byte whose nibbles are not both decimal digits. -/
  | bcdDigit (value : Int)
  | timeTooShort
  | startTooShort
  /-- A day number whose quotients do not make a date. -/
  | notADate (mjd : Nat) (fault : Calendar.DateFault)
  | partSelectorTooShort
  | unassignedPart (part : Nat)
  | reservedSelector (byte : Nat)
  | sectionHeaderTooShort
  | sectionTruncated (need size : Nat)
  /-- A declared length with no room for the checksum. -/
  | noRoomForChecksum (length : Nat)
  | notEventInformation (tableId : Nat)
  | eventSectionTooShort (size : Nat)
  | eventHeaderOverrun (offset : Nat)
  | eventLoopOverrun (loop offset : Nat)
  | descriptorHeaderOverrun (offset size : Nat)
  | descriptorOverrun (tag length offset size : Nat)
  | fieldOverrun (field : PayloadField) (need size : Nat)
  | oddContentLength (length : Nat)
  | ratingLength (length : Nat)
  | packetSize (size : Nat)
  | syncByte (byte : Nat)
  | adaptationOverrun (position : Nat)
  deriving DecidableEq, Repr

namespace DecodeError

open Numeral (hexUpper)

def message : DecodeError → String
  | .bcdDigit v => s!"Invalid BCD byte 0x{hexUpper 2 v}"
  | .timeTooShort => "BCD time field needs 3 bytes"
  | .startTooShort => "start_time needs 5 bytes"
  | .notADate n fault => s!"MJD {n} is not a valid date: {fault.message}"
  | .partSelectorTooShort => "Truncated 0x10 character table selector"
  | .unassignedPart n => s!"Unassigned ISO 8859 part {n} in selector"
  | .reservedSelector b => s!"Reserved character table selector 0x{hexUpper 2 b}"
  | .sectionHeaderTooShort => "Section header too short"
  | .sectionTruncated need size => s!"Section truncated: need {need} bytes, have {size}"
  | .noRoomForChecksum n => s!"Section length {n} cannot hold CRC_32"
  | .notEventInformation id => s!"Not an EIT: table_id=0x{hexUpper 2 id}"
  | .eventSectionTooShort n => s!"EIT section too short: {n} bytes"
  | .eventHeaderOverrun pos => s!"Event header at offset {pos} overruns section"
  | .eventLoopOverrun n pos =>
    s!"Event descriptor loop of {n} bytes at offset {pos} overruns section"
  | .descriptorHeaderOverrun pos size =>
    s!"Descriptor header at offset {pos} overruns loop of {size} bytes"
  | .descriptorOverrun tag n pos size =>
    s!"Descriptor 0x{hexUpper 2 tag} length {n} at offset {pos} overruns loop of {size} bytes"
  | .fieldOverrun field need size =>
    s!"{field.label} overruns descriptor ({need} > {size})"
  | .oddContentLength n => s!"Content descriptor length {n} is odd"
  | .ratingLength n => s!"Parental rating length {n} not a multiple of 4"
  | .packetSize n => s!"Packet must be 188 bytes, got {n}"
  | .syncByte b => s!"Invalid sync byte: 0x{hexUpper 2 b}, expected 0x47"
  | .adaptationOverrun pos => s!"Adaptation field overruns packet ({pos} bytes)"

end DecodeError

end BroadcastGuide
