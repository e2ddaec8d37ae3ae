import BroadcastGuide.Proofs.Section.Builder
import BroadcastGuide.Settings

/-! Sections that were built, read through a buffer of limited size. The buffer of the standard
options is two bytes smaller than the largest section. -/

namespace BroadcastGuide

namespace SectionHeader

/-- A section of this table starts with a byte that a reader does not skip. -/
def StartsSection (h : SectionHeader) : Prop := h.tableId ≠ 0x00 ∧ h.tableId ≠ 0xFF

variable {h : SectionHeader} {body bytes : Octets} {capacity : Nat}

theorem isFiller_raw (fits : h.Fits body) (start : h.StartsSection) :
    isFiller (h.raw body fits).tableId = false := by
  have htable := tableId_raw fits
  cases hfiller : isFiller (h.raw body fits).tableId with
  | false => rfl
  | true =>
    simp only [isFiller, Bool.or_eq_true, beq_iff_eq] at hfiller
    rcases hfiller with hempty | hfull
    · rw [hempty] at htable
      exact absurd htable.symm start.1
    · rw [hfull] at htable
      exact absurd htable.symm start.2

theorem length_bytes_raw (fits : h.Fits body) :
    (h.raw body fits).bytes.length = 12 + body.length := by
  rw [(h.raw body fits).length_bytes, ← totalLength_raw fits]
  rfl

/-- A buffer with room for the section finds it, and nothing else. -/
theorem scan_raw (fits : h.Fits body) (start : h.StartsSection)
    (room : 12 + body.length ≤ capacity) :
    Scan.ofBytes capacity (h.raw body fits).bytes =
      ⟨[⟨h.raw body fits, 0⟩], .exhausted, 0⟩ := by
  have hscan := @Scan.scanFrom_section capacity 0 (h.raw body fits) (isFiller_raw fits start)
    (by rwa [length_bytes_raw]) []
  rwa [List.append_nil, Scan.scanFrom_nil] at hscan

/-- With less room the reader gives up at the section. -/
theorem scan_raw_of_lt (fits : h.Fits body) (start : h.StartsSection)
    (large : capacity < 12 + body.length) :
    Scan.ofBytes capacity (h.raw body fits).bytes =
      ⟨[], .tooLarge ⟨12 + body.length, capacity⟩, 0⟩ := by
  obtain ⟨rest, hbytes, hrest⟩ := (h.raw body fits).bytes_eq
  have hroom := (h.raw body fits).four_le
  have hlength := length_bytes_raw fits
  rw [(h.raw body fits).length_bytes] at hlength
  rw [hbytes] at hroom hlength ⊢
  rw [← hlength] at large ⊢
  exact Scan.scanFrom_tooLarge (isFiller_raw fits start) (by omega) hroom large

variable {σ : Type} [ByteSource σ] {source : σ}

/-- Whatever is built for a table that a reader does not skip has 4098 bytes at most. Up to 4096
bytes a reader with the standard buffer finds it, alone, and nothing is left over; one byte or two
more are too many. -/
theorem readSections_build (built : h.build body = .ok bytes) (start : h.StartsSection)
    (delivers : Delivers source bytes) :
    let capacity := Options.standard.bufferCapacity.toNat
    let report := (readSections source capacity).report
    bytes.length = 12 + body.length ∧ bytes.length ≤ 4098 ∧
      (bytes.length ≤ 4096 → ∃ s : RawSection, s.bytes = bytes ∧ s.isIntact = true ∧
        report = ⟨[⟨s, 0⟩], .exhausted, 0⟩) ∧
      (4096 < bytes.length → report = ⟨[], .tooLarge ⟨bytes.length, 4096⟩, 0⟩) := by
  intro capacity report
  obtain ⟨fits, rfl⟩ := build_eq_ok built
  have hlength := length_bytes_raw fits
  have hreport : report = Scan.ofBytes capacity (h.raw body fits).bytes :=
    report_readSections delivers (by decide)
  have hroom := fits.room
  rw [show Checksum.append (h.written body) = (h.raw body fits).bytes from rfl, hlength]
  refine ⟨rfl, by omega, ?_, ?_⟩
  · exact fun small => ⟨h.raw body fits, rfl, isIntact_raw fits,
      hreport.trans (scan_raw fits start small)⟩
  · exact fun large => hreport.trans (scan_raw_of_lt fits start large)

def presentEvents : SectionHeader := ⟨0x4E, 1, 0, true, 0, 0⟩

theorem presentEvents_fits (room : 9 + body.length ≤ 4095) : presentEvents.Fits body :=
  ⟨by decide, by decide, by decide, by decide, by decide, room⟩

theorem presentEvents_startsSection : presentEvents.StartsSection := by
  unfold StartsSection presentEvents
  decide

/-- The largest section that the standard buffer takes. -/
theorem readSections_build_largest :
    let body := List.replicate 4084 0
    ∃ bytes, presentEvents.build body = .ok bytes ∧ bytes.length = 4096 ∧
      ∃ s : RawSection, s.bytes = bytes ∧
        (readSections (⟨bytes, []⟩ : Delivery) 4096).report = ⟨[⟨s, 0⟩], .exhausted, 0⟩ := by
  intro body
  have hbody : body.length = 4084 := List.length_replicate
  have built := build_of_fits (@presentEvents_fits body (by omega))
  obtain ⟨hlength, -, hfound, -⟩ :=
    readSections_build built presentEvents_startsSection (Delivery.delivers ⟨_, []⟩ (by simp))
  rw [hbody] at hlength
  obtain ⟨s, hs, -, hreport⟩ := hfound (Nat.le_of_eq hlength)
  exact ⟨_, built, hlength, s, hs, hreport⟩

/-- A section of one byte more is built, and the standard buffer does not take it. -/
theorem readSections_build_tooLarge :
    let body := List.replicate 4085 0
    let capacity := Options.standard.bufferCapacity.toNat
    ∃ bytes, presentEvents.build body = .ok bytes ∧ presentEvents.StartsSection ∧
      (readSections (⟨bytes, []⟩ : Delivery) capacity).report =
        ⟨[], .tooLarge ⟨4097, 4096⟩, 0⟩ := by
  intro body capacity
  have hbody : body.length = 4085 := List.length_replicate
  have fits := @presentEvents_fits body (by omega)
  have large : capacity < 12 + body.length := by
    rw [hbody]
    decide
  have delivers := Delivery.delivers ⟨(presentEvents.raw body fits).bytes, []⟩ (by simp)
  have hreport := (report_readSections delivers (show 3 ≤ capacity by decide)).trans
    (scan_raw_of_lt fits presentEvents_startsSection large)
  rw [hbody] at hreport
  exact ⟨_, build_of_fits fits, presentEvents_startsSection, hreport⟩

end SectionHeader

end BroadcastGuide
