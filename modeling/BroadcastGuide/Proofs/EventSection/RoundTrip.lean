import BroadcastGuide.Proofs.EventSection

/-! Event sections as bytes. A section that its fields have room for is read back from its bytes as
it was, whatever follows them. -/

namespace BroadcastGuide

/-- A section is framed at the front of whatever it begins. -/
theorem RawSection.ofBytes_append (s : RawSection) (more : Octets) :
    RawSection.ofBytes (s.bytes ++ more) = .ok s := by
  have hlength := s.length_bytes
  have hroom := s.four_le
  have hdeclared := declaredLength_append (show 3 ≤ s.bytes.length by omega) more
  have hcut : (s.bytes ++ more).take (3 + declaredLength s.bytes) = s.bytes := by
    rw [← hlength, List.take_left]
  have hmore : (s.bytes ++ more).length = s.bytes.length + more.length := List.length_append
  rw [RawSection.ofBytes, if_neg (by omega), dif_neg (by rw [hdeclared]; omega),
    dif_neg (by rw [hdeclared]; omega)]
  simp only [RawSection.cut, hdeclared, hcut]

namespace EventSection

def header (s : EventSection) : SectionHeader where
  tableId := s.tableId
  extension := s.serviceId
  version := s.version
  isCurrent := s.isCurrent
  number := s.number
  lastNumber := s.lastNumber

def encode (s : EventSection) : Except EncodeError Octets :=
  s.header.build (body s.transportStreamId s.originalNetworkId (UInt8.ofNat s.segmentLastNumber)
    (UInt8.ofNat s.segmentLastTableId) s.eventData)

theorem exists_encode_iff {s : EventSection} :
    (∃ bytes, s.encode = .ok bytes) ↔
      s.tableId < 256 ∧ s.serviceId < 65536 ∧ s.version < 32 ∧ s.number < 256 ∧
        s.lastNumber < 256 ∧ s.eventData.length ≤ 4080 := by
  constructor
  · rintro ⟨bytes, h⟩
    obtain ⟨⟨htable, hservice, hversion, hnumber, hlast, hroom⟩, -⟩ := SectionHeader.build_eq_ok h
    rw [length_body] at hroom
    simp only [header] at htable hservice hversion hnumber hlast
    omega
  · rintro ⟨htable, hservice, hversion, hnumber, hlast, hroom⟩
    have fits : s.header.Fits (body s.transportStreamId s.originalNetworkId
        (UInt8.ofNat s.segmentLastNumber) (UInt8.ofNat s.segmentLastTableId) s.eventData) :=
      { tableId := by dsimp only [header]; omega
        extension := by dsimp only [header]; omega
        version := by dsimp only [header]; omega
        number := by dsimp only [header]; omega
        lastNumber := by dsimp only [header]; omega
        room := by rw [length_body]; omega }
    exact ⟨_, SectionHeader.build_of_fits fits⟩

theorem tableId_lt {s : EventSection} (carries : Table.isEventInformation s.tableId = true) :
    s.tableId < 256 := by
  simp only [Table.isEventInformation, Bool.and_eq_true, decide_eq_true_eq] at carries
  omega

/-- A section whose bytes exist is read back from them, with the checksum judged, as it was; what
comes behind is not looked at. The bytes exist if every field has room for its number and the event
data has no more than 4080 bytes. -/
theorem ofBytes_encode {s : EventSection} (carries : Table.isEventInformation s.tableId = true)
    (ht : s.transportStreamId < 65536) (ho : s.originalNetworkId < 65536)
    (hn : s.segmentLastNumber < 256) (hi : s.segmentLastTableId < 256) :
    ((∃ bytes, s.encode = .ok bytes) ↔
        s.serviceId < 65536 ∧ s.version < 32 ∧ s.number < 256 ∧ s.lastNumber < 256 ∧
          s.eventData.length ≤ 4080) ∧
      ∀ bytes, s.encode = .ok bytes →
        ∀ trailing, ofBytes (bytes ++ trailing) true = .ok s := by
  refine ⟨?_, fun bytes h trailing => ?_⟩
  · rw [exists_encode_iff, and_iff_right (tableId_lt carries)]
  · obtain ⟨fits, rfl⟩ := SectionHeader.build_eq_ok h
    have hframe := (s.header.raw _ fits).ofBytes_append trailing
    have hintact := SectionHeader.isIntact_raw fits
    have hraw := ofRaw_raw ht ho carries fits
    rw [UInt8.toNat_ofNat_of_lt' hn, UInt8.toNat_ofNat_of_lt' hi] at hraw
    change ofBytes ((s.header.raw _ fits).bytes ++ trailing) true = .ok s
    simp only [ofBytes, hframe, hintact, hraw]
    rfl

/-- Every field at its greatest, and as much event data as a section can hold. -/
def fullSection : EventSection where
  tableId := 0x6F
  serviceId := 65535
  version := 31
  isCurrent := true
  number := 255
  lastNumber := 255
  transportStreamId := 65535
  originalNetworkId := 65535
  segmentLastNumber := 255
  segmentLastTableId := 255
  eventData := List.replicate 4080 0xFF

theorem ofBytes_encode_full :
    Table.isEventInformation fullSection.tableId = true ∧ ∃ bytes,
      fullSection.encode = .ok bytes ∧ ofBytes (bytes ++ bytes) true = .ok fullSection := by
  have carries : Table.isEventInformation fullSection.tableId = true := by decide
  obtain ⟨hencode, hread⟩ :=
    ofBytes_encode carries (by decide) (by decide) (by decide) (by decide)
  obtain ⟨bytes, hbytes⟩ := hencode.mpr
    ⟨by decide, by decide, by decide, by decide, Nat.le_of_eq List.length_replicate⟩
  exact ⟨carries, bytes, hbytes, hread bytes hbytes bytes⟩

end EventSection

end BroadcastGuide
