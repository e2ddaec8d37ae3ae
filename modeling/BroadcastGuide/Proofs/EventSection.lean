import BroadcastGuide.EventSection
import BroadcastGuide.Proofs.Calendar.Field
import BroadcastGuide.Proofs.Section.Builder

/-! Event sections that were built, and the records that a walk finds in them. -/

namespace BroadcastGuide

namespace EventRecord

def encode (r : EventRecord) : Octets :=
  Octets.ofWord r.eventId ++ r.startField ++ r.durationField ++
    [UInt8.ofNat (r.runningStatus * 32 + r.freeCaMode.toNat * 16 + r.descriptors.length / 256),
      UInt8.ofNat r.descriptors.length] ++ r.descriptors

/-- A record whose fields have the sizes and ranges that its bytes leave them. A record without
descriptors would end the walk. -/
structure Fits (r : EventRecord) : Prop where
  eventId : r.eventId < 65536
  start : r.startField.length = 5
  duration : r.durationField.length = 3
  runningStatus : r.runningStatus < 8
  some_descriptors : 0 < r.descriptors.length
  room : r.descriptors.length < 4096

theorem walkFrom_cons {r : EventRecord} (fits : r.Fits) (offset : Nat) (rest : Octets) :
    walkFrom offset (r.encode ++ rest) =
      ⟨r :: (walkFrom (offset + 12 + r.descriptors.length) rest).records,
        (walkFrom (offset + 12 + r.descriptors.length) rest).fault⟩ := by
  obtain ⟨eventId, startField, durationField, runningStatus, freeCaMode, descriptors⟩ := r
  obtain ⟨hid, hstart, hduration, hstatus, hpos, hroom⟩ := fits
  dsimp only at *
  match startField, durationField, hstart, hduration with
  | [t₄, t₃, t₂, t₁, t₀], [d₂, d₁, d₀], _, _ =>
    have hfree := freeCaMode.toNat_le
    have hflags : (UInt8.ofNat (runningStatus * 32 + freeCaMode.toNat * 16 +
        descriptors.length / 256)).toNat =
          runningStatus * 32 + freeCaMode.toNat * 16 + descriptors.length / 256 := by
      rw [UInt8.toNat_ofNat', Nat.mod_eq_of_lt (by omega)]
    have hloop : (runningStatus * 32 + freeCaMode.toNat * 16 + descriptors.length / 256) % 16 *
        256 + (UInt8.ofNat descriptors.length).toNat = descriptors.length := by
      rw [UInt8.toNat_ofNat']
      omega
    have hstatus' : (runningStatus * 32 + freeCaMode.toNat * 16 + descriptors.length / 256) / 32 =
        runningStatus := by omega
    have hfree' : decide ((runningStatus * 32 + freeCaMode.toNat * 16 +
        descriptors.length / 256) / 16 % 2 = 1) = freeCaMode := by
      cases freeCaMode with
      | false => exact decide_eq_false (by rw [Bool.toNat_false]; omega)
      | true => exact decide_eq_true (by rw [Bool.toNat_true]; omega)
    simp only [encode, Octets.ofWord, List.cons_append, List.nil_append]
    rw [walkFrom]
    dsimp only
    rw [hflags, hloop, if_neg (by omega), if_neg (by rw [List.length_append]; omega),
      List.take_left, List.drop_left, hstatus', hfree', Octets.word_ofWord hid]

theorem length_encode {r : EventRecord} (fits : r.Fits) :
    r.encode.length = 12 + r.descriptors.length := by
  simp only [encode, List.length_append, List.length_cons, List.length_nil, Octets.length_ofWord,
    fits.start, fits.duration]

/-- A walk finds the records that stand ahead, and goes on behind them. -/
theorem walkFrom_append {records : List EventRecord} (fits : ∀ r ∈ records, r.Fits) (offset : Nat)
    (rest : Octets) : walkFrom offset (records.flatMap encode ++ rest) =
      let tail := walkFrom (offset + (records.flatMap encode).length) rest
      ⟨records ++ tail.records, tail.fault⟩ := by
  induction records generalizing offset with
  | nil => rfl
  | cons r others ih =>
    have hr := fits r List.mem_cons_self
    rw [List.flatMap_cons, List.append_assoc, walkFrom_cons hr,
      ih (fun s hs => fits s (List.mem_cons_of_mem r hs)), List.length_append, length_encode hr]
    simp only [Nat.add_assoc, List.cons_append]

/-- Walking the bytes of records finds the records. -/
theorem walkFrom_encode {records : List EventRecord} (fits : ∀ r ∈ records, r.Fits)
    (offset : Nat) : walkFrom offset (records.flatMap encode) = ⟨records, none⟩ := by
  have hwalk := walkFrom_append fits offset []
  rw [List.append_nil, walkFrom] at hwalk
  simpa only [List.append_nil] using hwalk

theorem walkFrom_pair {r s : EventRecord} (hr : r.Fits) (hs : s.Fits) (offset : Nat) :
    walkFrom offset (r.encode ++ s.encode) = ⟨[r, s], none⟩ := by
  have hwalk : walkFrom offset ([r, s].flatMap encode) = ⟨[r, s], none⟩ :=
    walkFrom_encode (List.forall_mem_cons.mpr ⟨hr, List.forall_mem_singleton.mpr hs⟩) offset
  simpa using hwalk

end EventRecord

namespace EventSection

def body (transportStreamId originalNetworkId : Nat) (segmentLastNumber segmentLastTableId : UInt8)
    (eventData : Octets) : Octets :=
  Octets.ofWord transportStreamId ++ Octets.ofWord originalNetworkId ++
    segmentLastNumber :: segmentLastTableId :: eventData

theorem length_body (transportStreamId originalNetworkId : Nat)
    (segmentLastNumber segmentLastTableId : UInt8) (eventData : Octets) :
    (body transportStreamId originalNetworkId segmentLastNumber segmentLastTableId
      eventData).length = 6 + eventData.length := by
  simp only [body, List.length_append, List.length_cons, Octets.length_ofWord]
  omega

/-- The header of a section tells all of it but the event data. -/
theorem exists_ofRaw {header : Octets} (size : header.length = 14)
    (carries : Table.isEventInformation (header.headD 0).toNat = true) :
    ∃ info : EventSection, ∀ (raw : RawSection) (eventData checksum : Octets),
      checksum.length = 4 → raw.bytes = header ++ eventData ++ checksum →
        ofRaw raw = .ok { info with eventData := eventData } := by
  match header, size with
  | [table, h, l, s₁, s₀, flags, number, last, t₁, t₀, o₁, o₀, segment, lastTable], _ =>
    refine ⟨⟨table.toNat, Octets.word s₁ s₀, flags.toNat / 2 % 32, decide (flags.toNat % 2 = 1),
      number.toNat, last.toNat, Octets.word t₁ t₀, Octets.word o₁ o₀, segment.toNat,
      lastTable.toNat, []⟩, fun raw eventData checksum hchecksum hraw => ?_⟩
    have htable : raw.tableId = table := RawSection.tableId_eq hraw
    have hsize : ¬raw.totalLength < 18 := by
      rw [RawSection.totalLength, RawSection.length, ← raw.length_bytes, hraw]
      simp only [List.length_append, List.length_cons]
      omega
    have hdata : (eventData ++ checksum).take ((eventData ++ checksum).length - 4) = eventData := by
      rw [List.length_append, hchecksum, Nat.add_sub_cancel, List.take_left]
    rw [ofRaw, htable, if_neg (by simpa using carries), if_neg hsize, hraw]
    simp only [List.cons_append, List.nil_append]
    rw [hdata]

/-- Reading the header of a section that was built gives the fields that it was built from. -/
theorem ofRaw_raw {h : SectionHeader} {transportStreamId originalNetworkId : Nat}
    {segmentLastNumber segmentLastTableId : UInt8} {eventData : Octets}
    (ht : transportStreamId < 65536) (ho : originalNetworkId < 65536)
    (carries : Table.isEventInformation h.tableId = true)
    (fits : h.Fits (body transportStreamId originalNetworkId segmentLastNumber segmentLastTableId
      eventData)) :
    ofRaw (h.raw _ fits) = .ok
      { tableId := h.tableId.toNat
        serviceId := h.extension.toNat
        version := h.version.toNat
        isCurrent := h.isCurrent
        number := h.number.toNat
        lastNumber := h.lastNumber.toNat
        transportStreamId := transportStreamId
        originalNetworkId := originalNetworkId
        segmentLastNumber := segmentLastNumber.toNat
        segmentLastTableId := segmentLastTableId.toNat
        eventData := eventData } := by
  have hcarries : Table.isEventInformation (h.raw _ fits).tableId.toNat = true := by
    rw [SectionHeader.tableId_raw fits, carries]
  have hsize : ¬(h.raw _ fits).totalLength < 18 := by
    rw [SectionHeader.totalLength_raw fits, length_body]
    omega
  have hdata : ∀ checksum : UInt32, (eventData ++ Checksum.trailer checksum).take
      ((eventData ++ Checksum.trailer checksum).length - 4) = eventData := by
    intro checksum
    rw [List.length_append, Checksum.trailer, Octets.length_ofDoubleWord, Nat.add_sub_cancel,
      List.take_left]
  have htable := fits.tableId
  have hextension := fits.extension
  have hnumber := fits.number
  have hlast := fits.lastNumber
  have hversion := fits.version
  have hcurrent := h.isCurrent.toNat_le
  have hflags : (UInt8.ofNat (0xC0 + 2 * h.version.toNat + h.isCurrent.toNat)).toNat =
      0xC0 + 2 * h.version.toNat + h.isCurrent.toNat := by
    rw [UInt8.toNat_ofNat', Nat.mod_eq_of_lt (by omega)]
  have hversion' : (0xC0 + 2 * h.version.toNat + h.isCurrent.toNat) / 2 % 32 = h.version.toNat := by
    omega
  have hcurrent' : decide ((0xC0 + 2 * h.version.toNat + h.isCurrent.toNat) % 2 = 1) =
      h.isCurrent := by
    cases h.isCurrent with
    | false => exact decide_eq_false (by rw [Bool.toNat_false]; omega)
    | true => exact decide_eq_true (by rw [Bool.toNat_true]; omega)
  have hbyte : ∀ n : Int, 0 ≤ n ∧ n ≤ 255 → (UInt8.ofNat n.toNat).toNat = n.toNat := by
    intro n hn
    rw [UInt8.toNat_ofNat', Nat.mod_eq_of_lt (by omega)]
  rw [ofRaw, hcarries, if_neg hsize]
  simp only [SectionHeader.raw, Checksum.append, SectionHeader.written, body, Octets.ofWord,
    List.cons_append, List.nil_append]
  rw [hdata, hflags, hversion', hcurrent', hbyte _ htable, hbyte _ hnumber, hbyte _ hlast,
    Octets.word_ofWord ht, Octets.word_ofWord ho, Octets.word_ofWord (by omega)]
  rfl

end EventSection

end BroadcastGuide
