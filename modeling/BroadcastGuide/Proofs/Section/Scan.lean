import BroadcastGuide.Proofs.Delivering
import BroadcastGuide.Section.Reader

/-! A scan of a whole byte string for sections. A reader with a bounded buffer finds what the scan
finds, in whatever pieces the bytes come. -/

namespace BroadcastGuide

/-- A section, and how many bytes were dropped up to it. -/
structure Found where
  found : RawSection
  dropped : Nat
  deriving DecidableEq

/-- All sections of a byte string, why the scan ends, and how many bytes were dropped. -/
structure Scan where
  sections : List Found
  ending : Reader.Ending
  dropped : Nat
  deriving DecidableEq

theorem declaredLength_append {bytes : Octets} (h : 3 ≤ bytes.length) (more : Octets) :
    declaredLength (bytes ++ more) = declaredLength bytes := by
  match bytes, h with
  | _ :: _ :: _ :: _, _ => rfl

theorem RawSection.bytes_eq (s : RawSection) :
    ∃ rest, s.bytes = s.tableId :: rest ∧ 6 ≤ rest.length := by
  have hlen := s.length_bytes
  have hroom := s.four_le
  cases hs : s.bytes with
  | nil =>
    simp only [hs, List.length_nil] at hlen
    omega
  | cons b rest =>
    refine ⟨rest, ?_, ?_⟩
    · simp [RawSection.tableId, RawSection.byte, hs]
    · rw [hs] at hlen hroom
      simp only [List.length_cons] at hlen
      omega

theorem RawSection.tableId_eq {s : RawSection} {b : UInt8} {rest : Octets}
    (h : s.bytes = b :: rest) : s.tableId = b := by
  obtain ⟨tail, hs, _⟩ := s.bytes_eq
  rw [hs] at h
  exact (List.cons.inj h).1

theorem RawSection.tableId_cut {b : UInt8} {rest : Octets}
    (whole : 3 + declaredLength (b :: rest) ≤ (b :: rest).length)
    (room : 4 ≤ declaredLength (b :: rest)) :
    (RawSection.cut (b :: rest) whole room).tableId = b := by
  have hcut : (RawSection.cut (b :: rest) whole room).bytes =
      b :: rest.take (2 + declaredLength (b :: rest)) := by
    simp only [RawSection.cut]
    rw [show 3 + declaredLength (b :: rest) = 2 + declaredLength (b :: rest) + 1 by omega,
      List.take_succ_cons]
  exact RawSection.tableId_eq hcut

namespace Scan

/-- Scans from the left. Filler is skipped, a declared length below four costs one byte, and the
scan ends where a header or a section is incomplete or a section is too large. -/
def scanFrom (capacity dropped : Nat) (bytes : Octets) : Scan :=
  match bytes with
  | [] => ⟨[], .exhausted, dropped⟩
  | b :: rest =>
    if isFiller b then scanFrom capacity (dropped + 1) rest
    else if rest.length < 2 then ⟨[], .exhausted, dropped⟩
    else if short : declaredLength (b :: rest) < 4 then scanFrom capacity (dropped + 1) rest
    else
      let size := 3 + declaredLength (b :: rest)
      if capacity < size then ⟨[], .tooLarge ⟨size, capacity⟩, dropped⟩
      else if whole : (b :: rest).length < size then ⟨[], .exhausted, dropped⟩
      else
        let found := RawSection.cut (b :: rest) (Nat.le_of_not_lt whole) (Nat.le_of_not_lt short)
        let tail := scanFrom capacity dropped ((b :: rest).drop size)
        { tail with sections := ⟨found, dropped⟩ :: tail.sections }
termination_by bytes.length
decreasing_by
  all_goals simp only [List.length_drop, List.length_cons]
  all_goals omega

def ofBytes (capacity : Nat) (bytes : Octets) : Scan := scanFrom capacity 0 bytes

variable {capacity dropped : Nat}

theorem scanFrom_nil : scanFrom capacity dropped [] = ⟨[], .exhausted, dropped⟩ := by
  rw [scanFrom]

theorem scanFrom_filler {b : UInt8} (hb : isFiller b = true) (rest : Octets) :
    scanFrom capacity dropped (b :: rest) = scanFrom capacity (dropped + 1) rest := by
  rw [scanFrom, if_pos hb]

theorem scanFrom_unframed {b : UInt8} {rest : Octets} (hb : isFiller b = false)
    (header : 2 ≤ rest.length) (short : declaredLength (b :: rest) < 4) :
    scanFrom capacity dropped (b :: rest) = scanFrom capacity (dropped + 1) rest := by
  rw [scanFrom, if_neg (by simp [hb]), if_neg (by omega), dif_pos short]

theorem scanFrom_header {b : UInt8} {rest : Octets} (hb : isFiller b = false)
    (header : rest.length < 2) :
    scanFrom capacity dropped (b :: rest) = ⟨[], .exhausted, dropped⟩ := by
  rw [scanFrom, if_neg (by simp [hb]), if_pos header]

section Framed

variable {b : UInt8} {rest : Octets}

theorem scanFrom_tooLarge (hb : isFiller b = false) (header : 2 ≤ rest.length)
    (room : 4 ≤ declaredLength (b :: rest)) (large : capacity < 3 + declaredLength (b :: rest)) :
    scanFrom capacity dropped (b :: rest) =
      ⟨[], .tooLarge ⟨3 + declaredLength (b :: rest), capacity⟩, dropped⟩ := by
  rw [scanFrom, if_neg (by simp [hb]), if_neg (by omega), dif_neg (by omega), if_pos large]

theorem scanFrom_incomplete (hb : isFiller b = false) (room : 4 ≤ declaredLength (b :: rest))
    (fits : 3 + declaredLength (b :: rest) ≤ capacity)
    (part : (b :: rest).length < 3 + declaredLength (b :: rest)) :
    scanFrom capacity dropped (b :: rest) = ⟨[], .exhausted, dropped⟩ := by
  by_cases header : rest.length < 2
  · exact scanFrom_header hb header
  · rw [scanFrom, if_neg (by simp [hb]), if_neg header, dif_neg (by omega),
      if_neg (Nat.not_lt.mpr fits), dif_pos part]

end Framed

/-- What a reader would drop from the front of its buffer, the scan drops too. -/
theorem scanFrom_append (buffer data : Octets) :
    scanFrom capacity dropped (buffer ++ data) =
      scanFrom capacity (dropped + countUnframed buffer) (dropUnframed buffer ++ data) := by
  induction buffer generalizing dropped with
  | nil => rfl
  | cons b rest ih =>
    rw [dropUnframed, countUnframed]
    by_cases hb : isFiller b = true
    · rw [if_pos hb, if_pos hb, List.cons_append, scanFrom_filler hb, ih, Nat.add_assoc,
        Nat.add_comm 1]
    · rw [if_neg hb, if_neg hb]
      simp only [Bool.not_eq_true] at hb
      split
      · rename_i unframed
        have hlen : 2 ≤ (rest ++ data).length := by
          rw [List.length_append]
          omega
        have hshort : declaredLength (b :: (rest ++ data)) < 4 := by
          rw [← List.cons_append, declaredLength_append (by simp only [List.length_cons]; omega)]
          exact unframed.2
        rw [List.cons_append, scanFrom_unframed hb hlen hshort, ih, Nat.add_assoc, Nat.add_comm 1]
      · rfl

/-- A section at the front that fits is found. -/
theorem scanFrom_section (s : RawSection) (start : isFiller s.tableId = false)
    (fits : s.bytes.length ≤ capacity) (rest : Octets) :
    scanFrom capacity dropped (s.bytes ++ rest) =
      { scanFrom capacity dropped rest with
        sections := ⟨s, dropped⟩ :: (scanFrom capacity dropped rest).sections } := by
  obtain ⟨tail, hs, htail⟩ := s.bytes_eq
  have hlen := s.length_bytes
  have hroom := s.four_le
  have hdecl : declaredLength (s.tableId :: (tail ++ rest)) = declaredLength s.bytes := by
    rw [← List.cons_append, ← hs, declaredLength_append (by omega)]
  have hsize : (s.tableId :: (tail ++ rest)).length = s.bytes.length + rest.length := by
    rw [← List.cons_append, ← hs, List.length_append]
  have hcut : (s.tableId :: (tail ++ rest)).take (3 + declaredLength s.bytes) = s.bytes := by
    rw [← List.cons_append, ← hs, ← hlen, List.take_left]
  have hdrop : (s.tableId :: (tail ++ rest)).drop (3 + declaredLength s.bytes) = rest := by
    rw [← List.cons_append, ← hs, ← hlen, List.drop_left]
  rw [hs, List.cons_append, scanFrom, if_neg (by simp [start]),
    if_neg (by rw [List.length_append]; omega), dif_neg (by rw [hdecl]; omega),
    if_neg (by rw [hdecl]; omega), dif_neg (by rw [hdecl, hsize]; omega)]
  simp only [RawSection.cut, hdecl, hcut, hdrop]

/-- Sections one right after the other are all found, and nothing is dropped. -/
theorem scanFrom_sections {sections : List RawSection}
    (start : ∀ s ∈ sections, isFiller s.tableId = false)
    (fits : ∀ s ∈ sections, s.bytes.length ≤ capacity) :
    scanFrom capacity dropped (sections.flatMap (·.bytes)) =
      ⟨sections.map fun s => ⟨s, dropped⟩, .exhausted, dropped⟩ := by
  induction sections with
  | nil => exact scanFrom_nil
  | cons s rest ih =>
    rw [List.flatMap_cons, scanFrom_section s (start s List.mem_cons_self)
      (fits s List.mem_cons_self), ih (fun t ht => start t (List.mem_cons_of_mem s ht))
      (fun t ht => fits t (List.mem_cons_of_mem s ht)), List.map_cons]

end Scan

namespace Reader

open Scan (scanFrom)

def Run.report {σ : Type} (run : Run σ) : Scan :=
  ⟨run.sightings.map fun s => ⟨s.found, s.reader.bytesSkipped⟩, run.ending, run.reader.bytesSkipped⟩

theorem isFiller_of_dropUnframed {bytes : Octets} {b : UInt8} {rest : Octets}
    (h : dropUnframed bytes = b :: rest) : isFiller b = false := by
  induction bytes with
  | nil => simp [dropUnframed] at h
  | cons c tail ih =>
    unfold dropUnframed at h
    split at h
    · exact ih h
    · rename_i hc
      split at h
      · exact ih h
      · obtain ⟨rfl, rfl⟩ := List.cons.inj h
        simpa using hc

theorem head_whole {r : Reader} {s : RawSection} (h : r.head = .whole s) :
    r.settle.buffer = s.bytes ++ (r.settle.dropSection s).buffer ∧
      isFiller s.tableId = false ∧ s.bytes.length ≤ r.capacity := by
  unfold head at h
  split at h
  · cases h
  · dsimp only at h
    split at h
    · cases h
    · rename_i fits
      split at h
      · cases h
      · rename_i whole
        cases h
        have hlen := RawSection.length_cut (dropUnframed r.buffer) (Nat.le_of_not_lt whole)
          (four_le_dropUnframed (by omega))
        refine ⟨?_, ?_, by omega⟩
        · simp only [dropSection, hlen]
          exact (List.take_append_drop _ _).symm
        · obtain ⟨b, rest, hw⟩ :=
            List.exists_cons_of_length_pos (l := dropUnframed r.buffer) (by omega)
          simp only [hw, RawSection.tableId_cut]
          exact isFiller_of_dropUnframed hw

theorem head_tooLarge {r : Reader} {e : SectionTooLarge} (h : r.head = .tooLarge e) :
    ∃ b rest, r.settle.buffer = b :: rest ∧ isFiller b = false ∧ 2 ≤ rest.length ∧
      4 ≤ declaredLength (b :: rest) ∧ r.capacity < 3 + declaredLength (b :: rest) ∧
      e = ⟨3 + declaredLength (b :: rest), r.capacity⟩ := by
  unfold head at h
  split at h
  · cases h
  · rename_i header
    dsimp only at h
    split at h
    · rename_i large
      cases h
      have room := four_le_dropUnframed (Nat.le_of_not_lt header)
      obtain ⟨b, rest, hw⟩ := List.exists_cons_of_length_pos (l := dropUnframed r.buffer) (by omega)
      rw [hw] at header room large ⊢
      refine ⟨b, rest, hw, isFiller_of_dropUnframed hw, ?_, room, large, rfl⟩
      simp only [List.length_cons] at header
      omega
    · split at h <;> cases h

theorem head_incomplete {r : Reader} (h : r.head = .incomplete) :
    r.settle.buffer.length < 3 ∨ (3 + declaredLength r.settle.buffer ≤ r.capacity ∧
      r.settle.buffer.length < 3 + declaredLength r.settle.buffer) := by
  unfold head at h
  split at h
  · rename_i header
    exact Or.inl header
  · dsimp only at h
    split at h
    · cases h
    · rename_i fits
      split at h
      · rename_i part
        exact Or.inr ⟨Nat.le_of_not_lt fits, part⟩
      · cases h

/-- A reader that waits has room for at least one byte more. -/
theorem room_of_incomplete {r : Reader} (h : r.head = .incomplete) (hc : 3 ≤ r.capacity) :
    0 < r.capacity - r.settle.buffer.length := by
  rcases head_incomplete h with header | ⟨fits, part⟩ <;> omega

/-- The scan ends where a reader would wait for more bytes. -/
theorem scanFrom_of_incomplete {r : Reader} (h : r.head = .incomplete) :
    scanFrom r.capacity r.settle.bytesSkipped r.settle.buffer =
      ⟨[], .exhausted, r.settle.bytesSkipped⟩ := by
  cases hw : r.settle.buffer with
  | nil => exact Scan.scanFrom_nil
  | cons b rest =>
    have hb : isFiller b = false := isFiller_of_dropUnframed hw
    by_cases header : rest.length < 2
    · exact Scan.scanFrom_header hb header
    · have hlen : r.settle.buffer.length = rest.length + 1 := by rw [hw, List.length_cons]
      have room : 4 ≤ declaredLength r.settle.buffer :=
        four_le_dropUnframed (show 3 ≤ r.settle.buffer.length by omega)
      rcases head_incomplete h with short | ⟨fits, part⟩
      · omega
      · rw [hw] at room fits part
        exact Scan.scanFrom_incomplete hb room fits part

variable {σ : Type} [ByteSource σ]

/-- A run finds what a scan finds in the buffer and all that the source delivers. -/
theorem report_run {r : Reader} {source : σ} {data : Octets} (h : Delivers source data)
    (hc : 3 ≤ r.capacity) :
    (r.run source).report = scanFrom r.capacity r.bytesSkipped (r.buffer ++ data) := by
  -- the scan stands where the reader stands: at the bytes of its buffer and all that will come
  fun_induction run r source generalizing data with
  | case1 r source s hs next rest =>
    rename_i ih
    obtain ⟨hbuf, start, fits⟩ := head_whole hs
    have hnext := ih h hc
    rw [Scan.scanFrom_append, ← show r.settle.buffer = dropUnframed r.buffer from rfl, hbuf,
      List.append_assoc, Scan.scanFrom_section s start fits]
    rw [show next.capacity = r.capacity from rfl] at hnext
    rw [show r.bytesSkipped + countUnframed r.buffer = next.bytesSkipped from rfl, ← hnext]
    rfl
  | case2 r source e he =>
    obtain ⟨b, rest, hbuf, hb, header, room, large, rfl⟩ := head_tooLarge he
    have hdecl : declaredLength (b :: (rest ++ data)) = declaredLength (b :: rest) := by
      rw [← List.cons_append, declaredLength_append (by simp only [List.length_cons]; omega)]
    rw [Scan.scanFrom_append, ← show r.settle.buffer = dropUnframed r.buffer from rfl, hbuf,
      List.cons_append, Scan.scanFrom_tooLarge hb (by rw [List.length_append]; omega)
        (by rw [hdecl]; exact room) (by rw [hdecl]; exact large), hdecl]
    rfl
  | case3 r source hi answer =>
    rename_i hempty
    rcases h.read_cases (room_of_incomplete hi hc) with ⟨_, rfl⟩ | ⟨rest, hne, _⟩
    · rw [Scan.scanFrom_append, List.append_nil]
      exact (scanFrom_of_incomplete hi).symm
    · exact absurd (List.isEmpty_iff.mp hempty) hne
  | case4 r source hi answer hne =>
    rename_i ih
    rcases h.read_cases (room_of_incomplete hi hc) with ⟨hnil, _⟩ | ⟨rest, _, rfl, hrest⟩
    · exact absurd (List.isEmpty_iff.mpr hnil) hne
    · rw [ih hrest hc, Scan.scanFrom_append r.buffer, ← List.append_assoc]
      rfl

end Reader

theorem report_readSections {σ : Type} [ByteSource σ] {source : σ} {data : Octets} {capacity : Nat}
    (h : Delivers source data) (hc : 3 ≤ capacity) :
    (readSections source capacity).report = Scan.ofBytes capacity data :=
  Reader.report_run (r := .ofCapacity capacity) h hc

/-- However the same bytes are delivered, a reader shows the same sections, drops the same bytes
before each of them and ends in the same way. It is what one scan of all bytes shows. -/
theorem readSections_eq_scan {σ τ : Type} [ByteSource σ] [ByteSource τ] {source : σ} {other : τ}
    {data : Octets} {capacity : Nat} (hs : Delivers source data) (ho : Delivers other data)
    (hc : 3 ≤ capacity) :
    (readSections source capacity).report = (readSections other capacity).report ∧
      (readSections source capacity).report = Scan.ofBytes capacity data := by
  have hscan := report_readSections hs hc
  exact ⟨hscan.trans (report_readSections ho hc).symm, hscan⟩

/-- Filler, a header with no room for a checksum, one section, and a section that is too large. -/
def mixedBytes : Octets :=
  [0xFF, 0x4E, 0x00, 0x03, 0x00, 0x00, 0x4E, 0x70, 0x04, 1, 2, 3, 4, 0xFF, 0x4E, 0x7F, 0xFF, 0x00]

theorem readSections_mixedBytes :
    Delivers (Delivery.mk mixedBytes [1, 2, 1, 5]) mixedBytes ∧
      Delivers (Delivery.mk mixedBytes []) mixedBytes ∧ 3 ≤ 16 ∧
      (readSections (Delivery.mk mixedBytes [1, 2, 1, 5]) 16).report =
        (readSections (Delivery.mk mixedBytes []) 16).report ∧
      (readSections (Delivery.mk mixedBytes [1, 2, 1, 5]) 16).report = Scan.ofBytes 16 mixedBytes ∧
      (Scan.ofBytes 16 mixedBytes).ending = .tooLarge ⟨4098, 16⟩ ∧
      (Scan.ofBytes 16 mixedBytes).sections.map (·.dropped) = [6] := by
  have hs := Delivery.delivers ⟨mixedBytes, [1, 2, 1, 5]⟩ (by decide)
  have ho := Delivery.delivers ⟨mixedBytes, []⟩ (by decide)
  have h := readSections_eq_scan hs ho (show 3 ≤ 16 by decide)
  exact ⟨hs, ho, by decide, h.1, h.2, by cbv, by cbv⟩

end BroadcastGuide
