import BroadcastGuide.Proofs.EventSection

/-! How far a walk of event data comes. The records that it finds are what stands ahead of the place
where it ends, and what stands there tells why it ends. -/

namespace BroadcastGuide

namespace EventRecord

def declaredLoop (bytes : Octets) : Nat :=
  (bytes.getD 10 0).toNat % 16 * 256 + (bytes.getD 11 0).toNat

def Closes (bytes : Octets) : Prop := 12 ≤ bytes.length ∧ declaredLoop bytes = 0

def BreaksOff (bytes : Octets) : Prop :=
  bytes ≠ [] ∧ (bytes.length < 12 ∨
    declaredLoop bytes ≠ 0 ∧ bytes.length < 12 + declaredLoop bytes)

def Stops (bytes : Octets) : Prop := bytes = [] ∨ Closes bytes ∨ BreaksOff bytes

instance (bytes : Octets) : Decidable (Closes bytes) := inferInstanceAs (Decidable (_ ∧ _))

instance (bytes : Octets) : Decidable (BreaksOff bytes) := inferInstanceAs (Decidable (_ ∧ _))

-- The high nibble of a loop length holds the running status and the access flag.
example :
    Closes [0, 1, 0xEB, 0xD2, 0x12, 0, 0, 0, 0x30, 0, 0x90, 0] ∧
      BreaksOff [0, 1, 0xEB, 0xD2, 0x12, 0, 0, 0, 0x30, 0, 0x90, 1] := by decide

def faultAt (offset : Nat) (bytes : Octets) : Option DecodeError :=
  if bytes = [] then none
  else if bytes.length < 12 then some (.eventHeaderOverrun offset)
  else if declaredLoop bytes = 0 then none
  else some (.eventLoopOverrun (declaredLoop bytes) offset)

section Header

variable (i₁ i₀ t₄ t₃ t₂ t₁ t₀ d₂ d₁ d₀ l₁ l₀ : UInt8)

theorem declaredLoop_header (rest : Octets) :
    declaredLoop (i₁ :: i₀ :: t₄ :: t₃ :: t₂ :: t₁ :: t₀ :: d₂ :: d₁ :: d₀ :: l₁ :: l₀ :: rest) =
      l₁.toNat % 16 * 256 + l₀.toNat := rfl

def ofHeader (descriptors : Octets) : EventRecord where
  eventId := Octets.word i₁ i₀
  startField := [t₄, t₃, t₂, t₁, t₀]
  durationField := [d₂, d₁, d₀]
  runningStatus := l₁.toNat / 32
  freeCaMode := decide (l₁.toNat / 16 % 2 = 1)
  descriptors := descriptors

variable {l₁ l₀} {descriptors : Octets}
  (size : descriptors.length = l₁.toNat % 16 * 256 + l₀.toNat)

include size

/-- A record keeps every bit of its header. -/
theorem encode_ofHeader :
    (ofHeader i₁ i₀ t₄ t₃ t₂ t₁ t₀ d₂ d₁ d₀ l₁ descriptors).encode =
      i₁ :: i₀ :: t₄ :: t₃ :: t₂ :: t₁ :: t₀ :: d₂ :: d₁ :: d₀ :: l₁ :: l₀ :: descriptors := by
  have hl₁ := l₁.toNat_lt
  have hl₀ := l₀.toNat_lt
  have hfree : (decide (l₁.toNat / 16 % 2 = 1)).toNat = l₁.toNat / 16 % 2 := by
    by_cases h : l₁.toNat / 16 % 2 = 1
    · rw [decide_eq_true h, h, Bool.toNat_true]
    · rw [decide_eq_false h, Bool.toNat_false]
      omega
  have hflags : UInt8.ofNat (l₁.toNat / 32 * 32 + l₁.toNat / 16 % 2 * 16 +
      (l₁.toNat % 16 * 256 + l₀.toNat) / 256) = l₁ := by
    rw [UInt8.ofNat_eq_iff_mod_eq_toNat]
    omega
  have hlow : UInt8.ofNat (l₁.toNat % 16 * 256 + l₀.toNat) = l₀ := by
    rw [UInt8.ofNat_eq_iff_mod_eq_toNat]
    omega
  simp only [encode, ofHeader]
  rw [hfree, size, hflags, hlow, Octets.ofWord_word]
  rfl

theorem fits_ofHeader (some_descriptors : 0 < descriptors.length) :
    (ofHeader i₁ i₀ t₄ t₃ t₂ t₁ t₀ d₂ d₁ d₀ l₁ descriptors).Fits where
  eventId := Octets.word_lt i₁ i₀
  start := rfl
  duration := rfl
  runningStatus := by
    have hl₁ := l₁.toNat_lt
    dsimp only [ofHeader]
    omega
  some_descriptors := some_descriptors
  room := by
    have hl₀ := l₀.toNat_lt
    dsimp only [ofHeader]
    omega

end Header

theorem exists_header {bytes : Octets} (header : 12 ≤ bytes.length) :
    ∃ i₁ i₀ t₄ t₃ t₂ t₁ t₀ d₂ d₁ d₀ l₁ l₀ rest, bytes =
      i₁ :: i₀ :: t₄ :: t₃ :: t₂ :: t₁ :: t₀ :: d₂ :: d₁ :: d₀ :: l₁ :: l₀ :: rest := by
  match bytes, header with
  | i₁ :: i₀ :: t₄ :: t₃ :: t₂ :: t₁ :: t₀ :: d₂ :: d₁ :: d₀ :: l₁ :: l₀ :: rest, _ =>
    exact ⟨i₁, i₀, t₄, t₃, t₂, t₁, t₀, d₂, d₁, d₀, l₁, l₀, rest, rfl⟩

/-- Twelve bytes with the loop that they declare are the bytes of a record. -/
theorem exists_encode {bytes : Octets} (header : 12 ≤ bytes.length)
    (some_loop : declaredLoop bytes ≠ 0) (whole : 12 + declaredLoop bytes ≤ bytes.length) :
    ∃ (r : EventRecord) (rest : Octets), r.Fits ∧ bytes = r.encode ++ rest := by
  obtain ⟨i₁, i₀, t₄, t₃, t₂, t₁, t₀, d₂, d₁, d₀, l₁, l₀, rest, rfl⟩ := exists_header header
  rw [declaredLoop_header] at some_loop whole
  simp only [List.length_cons] at whole
  have hloop : (rest.take (l₁.toNat % 16 * 256 + l₀.toNat)).length =
      l₁.toNat % 16 * 256 + l₀.toNat := List.length_take_of_le (by omega)
  refine ⟨ofHeader i₁ i₀ t₄ t₃ t₂ t₁ t₀ d₂ d₁ d₀ l₁ (rest.take (l₁.toNat % 16 * 256 + l₀.toNat)),
    rest.drop (l₁.toNat % 16 * 256 + l₀.toNat), fits_ofHeader _ _ _ _ _ _ _ _ _ _ hloop ?_, ?_⟩
  · omega
  · rw [encode_ofHeader _ _ _ _ _ _ _ _ _ _ hloop]
    simp only [List.cons_append, List.take_append_drop]

theorem Closes.ne_nil {bytes : Octets} (h : Closes bytes) : bytes ≠ [] := by
  rintro rfl
  exact absurd h.1 (by decide)

theorem BreaksOff.not_closes {bytes : Octets} (h : BreaksOff bytes) : ¬Closes bytes := by
  intro closes
  rcases h.2 with header | ⟨some_loop, -⟩
  · exact absurd closes.1 (Nat.not_le.mpr header)
  · exact some_loop closes.2

theorem faultAt_eq_none_iff {offset : Nat} {bytes : Octets} :
    faultAt offset bytes = none ↔ bytes = [] ∨ Closes bytes := by
  rw [faultAt, Closes]
  by_cases hnil : bytes = []
  · simp [hnil]
  by_cases header : bytes.length < 12
  · simp [hnil, header, Nat.not_le.mpr header]
  · simp [hnil, header, Nat.le_of_not_lt header]

theorem isSome_faultAt_iff {offset : Nat} {bytes : Octets} (stops : Stops bytes) :
    (faultAt offset bytes).isSome = true ↔ BreaksOff bytes := by
  rw [Option.isSome_iff_ne_none, ne_eq, faultAt_eq_none_iff]
  constructor
  · intro h
    exact (stops.resolve_left fun hnil => h (.inl hnil)).resolve_left fun closes => h (.inr closes)
  · rintro breaksOff (hnil | closes)
    · exact breaksOff.1 hnil
    · exact breaksOff.not_closes closes

theorem walkFrom_of_closes {bytes : Octets} (h : Closes bytes) (offset : Nat) :
    walkFrom offset bytes = ⟨[], none⟩ := by
  obtain ⟨header, hloop⟩ := h
  obtain ⟨i₁, i₀, t₄, t₃, t₂, t₁, t₀, d₂, d₁, d₀, l₁, l₀, rest, rfl⟩ := exists_header header
  rw [declaredLoop_header] at hloop
  rw [walkFrom]
  dsimp only
  rw [if_pos hloop]

theorem walkFrom_of_breaksOff {bytes : Octets} (h : BreaksOff bytes) (offset : Nat) :
    walkFrom offset bytes = ⟨[], faultAt offset bytes⟩ := by
  obtain ⟨some_byte, short⟩ := h
  by_cases header : 12 ≤ bytes.length
  · obtain ⟨some_loop, short⟩ := short.resolve_left (Nat.not_lt.mpr header)
    rw [faultAt, if_neg some_byte, if_neg (Nat.not_lt.mpr header), if_neg some_loop]
    obtain ⟨i₁, i₀, t₄, t₃, t₂, t₁, t₀, d₂, d₁, d₀, l₁, l₀, rest, rfl⟩ := exists_header header
    rw [declaredLoop_header] at some_loop short ⊢
    simp only [List.length_cons] at short
    rw [walkFrom]
    dsimp only
    rw [if_neg some_loop, if_pos (by omega)]
  · rw [faultAt, if_neg some_byte, if_pos (Nat.lt_of_not_le header), walkFrom.eq_def]
    split
    · exact absurd rfl some_byte
    · exact absurd (by simp only [List.length_cons]; omega) header
    · rfl

/-- A walk finds nothing where it stops. -/
theorem walkFrom_of_stops {bytes : Octets} (h : Stops bytes) (offset : Nat) :
    walkFrom offset bytes = ⟨[], faultAt offset bytes⟩ := by
  rcases h with rfl | closes | breaksOff
  · rw [walkFrom]
    rfl
  · rw [walkFrom_of_closes closes, faultAt_eq_none_iff.mpr (.inr closes)]
  · exact walkFrom_of_breaksOff breaksOff offset

theorem stops_or_exists_encode (bytes : Octets) :
    Stops bytes ∨ ∃ (r : EventRecord) (rest : Octets), r.Fits ∧ bytes = r.encode ++ rest := by
  by_cases some_byte : bytes = []
  · exact .inl (.inl some_byte)
  by_cases header : 12 ≤ bytes.length
  · by_cases some_loop : declaredLoop bytes = 0
    · exact .inl (.inr (.inl ⟨header, some_loop⟩))
    by_cases whole : 12 + declaredLoop bytes ≤ bytes.length
    · exact .inr (exists_encode header some_loop whole)
    · exact .inl (.inr (.inr ⟨some_byte, .inr ⟨some_loop, Nat.lt_of_not_le whole⟩⟩))
  · exact .inl (.inr (.inr ⟨some_byte, .inl (Nat.lt_of_not_le header)⟩))

/-- What a walk leaves behind the records that it finds is a place where it stops, and its fault is
the one there. -/
theorem exists_rest (offset : Nat) (bytes : Octets) :
    let walk := walkFrom offset bytes
    ∃ rest, bytes = walk.records.flatMap encode ++ rest ∧ (∀ r ∈ walk.records, r.Fits) ∧
      Stops rest ∧ walk.fault = faultAt (offset + (walk.records.flatMap encode).length) rest := by
  induction hn : bytes.length using Nat.strongRecOn generalizing offset bytes with
  | ind n ih =>
    rcases stops_or_exists_encode bytes with stops | ⟨r, rest, fits, rfl⟩
    · rw [walkFrom_of_stops stops]
      exact ⟨bytes, rfl, fun _ hr => absurd hr List.not_mem_nil, stops, rfl⟩
    · have hlength := length_encode fits
      have shorter : rest.length < n := by
        rw [← hn, List.length_append]
        omega
      obtain ⟨last, hrest, hfits, hstops, hfault⟩ :=
        ih rest.length shorter (offset + 12 + r.descriptors.length) rest rfl
      rw [walkFrom_cons fits]
      refine ⟨last, ?_, List.forall_mem_cons.mpr ⟨fits, hfits⟩, hstops, ?_⟩
      · rw [List.flatMap_cons, List.append_assoc, ← hrest]
      · rw [hfault, List.flatMap_cons, List.length_append, hlength]
        simp only [Nat.add_assoc]

end EventRecord

namespace EventSection

open EventRecord (Closes BreaksOff)

/-- The bytes of the records that are found are what stands at the front of the event data. What
stands behind them tells how the walk ends: without a fault where nothing is left or where a record
without descriptors begins, with a fault where a record breaks off. The records of any bytes that
were written as records are found. -/
theorem events_encode (info : EventSection) :
    (∃ rest, info.eventData = info.events.records.flatMap EventRecord.encode ++ rest ∧
        (∀ r ∈ info.events.records, r.Fits) ∧
        (info.events.fault = none ↔ rest = [] ∨ Closes rest) ∧ ¬(rest = [] ∧ Closes rest) ∧
        (info.events.fault.isSome = true ↔ BreaksOff rest)) ∧
      ∀ records : List EventRecord, (∀ r ∈ records, r.Fits) →
        ({ info with eventData := records.flatMap EventRecord.encode } : EventSection).events =
          ⟨records, none⟩ := by
  obtain ⟨rest, hdata, hfits, hstops, hfault⟩ := EventRecord.exists_rest 0 info.eventData
  refine ⟨⟨rest, hdata, hfits, ?_, ?_, ?_⟩, fun records fits => EventRecord.walkFrom_encode fits 0⟩
  · rw [EventSection.events, hfault]
    exact EventRecord.faultAt_eq_none_iff
  · rintro ⟨hnil, closes⟩
    exact closes.ne_nil hnil
  · rw [EventSection.events, hfault]
    exact EventRecord.isSome_faultAt_iff hstops

def scheduleSection : EventSection where
  tableId := 0x50
  serviceId := 28106
  version := 31
  isCurrent := false
  number := 8
  lastNumber := 248
  transportStreamId := 1101
  originalNetworkId := 1
  segmentLastNumber := 8
  segmentLastTableId := 0x51
  eventData := []

def recordOfSize (size : Nat) : EventRecord :=
  ⟨0xFFFF, [0xEB, 0xD2, 0x12, 0, 0], [0, 0x30, 0], 7, true, List.replicate size 0xFF⟩

theorem fits_recordOfSize {size : Nat} (some_descriptors : 0 < size) (room : size < 4096) :
    (recordOfSize size).Fits := by
  have hsize : (recordOfSize size).descriptors.length = size := List.length_replicate
  exact ⟨show 0xFFFF < 65536 by decide, rfl, rfl, show 7 < 8 by decide,
    hsize.symm ▸ some_descriptors, hsize.symm ▸ room⟩

/-- The shortest and the longest loops that a record can declare. -/
theorem events_encode_extremes :
    (∀ r ∈ [recordOfSize 1, recordOfSize 4095], r.Fits) ∧
      ({ scheduleSection with
          eventData := [recordOfSize 1, recordOfSize 4095].flatMap EventRecord.encode } :
          EventSection).events = ⟨[recordOfSize 1, recordOfSize 4095], none⟩ := by
  have fits : ∀ r ∈ [recordOfSize 1, recordOfSize 4095], r.Fits :=
    List.forall_mem_cons.mpr ⟨fits_recordOfSize (by decide) (by decide),
      List.forall_mem_singleton.mpr (fits_recordOfSize (by decide) (by decide))⟩
  exact ⟨fits, (events_encode scheduleSection).2 _ fits⟩

end EventSection

end BroadcastGuide
