import BroadcastGuide.Proofs.Section.Scan

/-! Sections with filler around them. A reader hands out the sections, drops the filler and nothing
else, and reads to the end of its source. -/

namespace BroadcastGuide

/-- A section with the filler ahead of it. -/
structure PaddedSection where
  filler : Octets
  raw : RawSection
  all_filler : ∀ b ∈ filler, isFiller b = true
  start : isFiller raw.tableId = false

namespace PaddedSection

def bytes (p : PaddedSection) : Octets := p.filler ++ p.raw.bytes

end PaddedSection

/-- Nothing, or less than the whole of a section that would fit. -/
def BrokenOff (capacity : Nat) (part : Octets) : Prop :=
  part = [] ∨ ∃ s : RawSection, isFiller s.tableId = false ∧ s.bytes.length ≤ capacity ∧
    part <+: s.bytes ∧ part.length < s.bytes.length

namespace Scan

variable {capacity dropped : Nat}

theorem scanFrom_fillers {filler : Octets} (h : ∀ b ∈ filler, isFiller b = true) (rest : Octets) :
    scanFrom capacity dropped (filler ++ rest) =
      scanFrom capacity (dropped + filler.length) rest := by
  induction filler generalizing dropped with
  | nil => rfl
  | cons b tail ih =>
    rw [List.cons_append, scanFrom_filler (h b List.mem_cons_self),
      ih fun c hc => h c (List.mem_cons_of_mem b hc), List.length_cons, Nat.add_assoc,
      Nat.add_comm 1]

/-- A section that breaks off is not found, and none of it is dropped. -/
theorem scanFrom_brokenOff {part : Octets} (h : BrokenOff capacity part) :
    scanFrom capacity dropped part = ⟨[], .exhausted, dropped⟩ := by
  rcases h with rfl | ⟨s, start, fits, ⟨missing, hs⟩, short⟩
  · exact scanFrom_nil
  cases part with
  | nil => exact scanFrom_nil
  | cons b rest =>
    have hb : isFiller b = false := by
      rw [← RawSection.tableId_eq hs.symm]
      exact start
    by_cases header : rest.length < 2
    · exact scanFrom_header hb header
    · have hdecl : declaredLength s.bytes = declaredLength (b :: rest) := by
        rw [← hs, declaredLength_append (by simp only [List.length_cons]; omega)]
      have hlen := s.length_bytes
      have hroom := s.four_le
      exact scanFrom_incomplete hb (by omega) (by omega) (by omega)

theorem scanFrom_padded (dropped : Nat) {padded : List PaddedSection} {filler part : Octets}
    (fits : ∀ p ∈ padded, p.raw.bytes.length ≤ capacity)
    (all_filler : ∀ b ∈ filler, isFiller b = true) (broken : BrokenOff capacity part) :
    let scan := scanFrom capacity dropped (padded.flatMap (·.bytes) ++ filler ++ part)
    scan.sections.map (·.found) = padded.map (·.raw) ∧ scan.ending = .exhausted ∧
      scan.dropped = dropped + (padded.flatMap (·.filler) ++ filler).length := by
  induction padded generalizing dropped with
  | nil =>
    rw [List.flatMap_nil, List.nil_append, scanFrom_fillers all_filler, scanFrom_brokenOff broken]
    exact ⟨rfl, rfl, rfl⟩
  | cons p rest ih =>
    have hrest := ih (dropped + p.filler.length) fun q hq => fits q (List.mem_cons_of_mem p hq)
    have hsplit : (p :: rest).flatMap (·.bytes) ++ filler ++ part =
        p.filler ++ (p.raw.bytes ++ (rest.flatMap (·.bytes) ++ filler ++ part)) := by
      simp only [List.flatMap_cons, PaddedSection.bytes, List.append_assoc]
    rw [hsplit, scanFrom_fillers p.all_filler,
      scanFrom_section p.raw p.start (fits p List.mem_cons_self)]
    obtain ⟨hfound, hend, hdropped⟩ := hrest
    refine ⟨?_, hend, ?_⟩
    · rw [List.map_cons, List.map_cons]
      exact congrArg _ hfound
    · dsimp only at hdropped ⊢
      rw [hdropped]
      simp only [List.flatMap_cons, List.length_append]
      omega

end Scan

namespace Reader

variable {σ : Type} [ByteSource σ]

/-- A run that ends with its source has read all of it. -/
theorem bytesRead_run {r : Reader} {source : σ} {data : Octets} (h : Delivers source data)
    (hc : 3 ≤ r.capacity) (hend : (r.run source).ending = .exhausted) :
    (r.run source).reader.bytesRead = r.bytesRead + data.length := by
  fun_induction run r source generalizing data with
  | case1 r source s hs next rest =>
    rename_i ih
    exact ih h hc hend
  | case2 => cases hend
  | case3 r source hi answer =>
    rename_i hempty
    rcases h.read_cases (room_of_incomplete hi hc) with ⟨_, rfl⟩ | ⟨rest, hne, _⟩
    · rfl
    · exact absurd (List.isEmpty_iff.mp hempty) hne
  | case4 r source hi answer hne =>
    rename_i ih
    rcases h.read_cases (room_of_incomplete hi hc) with ⟨hnil, _⟩ | ⟨rest, _, rfl, hrest⟩
    · exact absurd (List.isEmpty_iff.mpr hnil) hne
    · rw [ih hrest hc hend, List.length_append, ← Nat.add_assoc]
      rfl

end Reader

/-- Whatever the sections hold, a reader hands out exactly them, unchanged and in order. It reads
every byte, and drops the filler and nothing else. -/
theorem readSections_padded {σ : Type} [ByteSource σ] {source : σ} {capacity : Nat}
    {padded : List PaddedSection} {filler part : Octets} (hc : 3 ≤ capacity)
    (fits : ∀ p ∈ padded, p.raw.bytes.length ≤ capacity)
    (all_filler : ∀ b ∈ filler, isFiller b = true) (broken : BrokenOff capacity part)
    (h : Delivers source (padded.flatMap (·.bytes) ++ filler ++ part)) :
    let run := readSections source capacity
    run.sightings.map (·.found) = padded.map (·.raw) ∧ run.ending = .exhausted ∧
      run.reader.bytesRead = (padded.flatMap (·.bytes) ++ filler ++ part).length ∧
      run.reader.bytesSkipped = (padded.flatMap (·.filler) ++ filler).length := by
  intro run
  have hreport : run.report = Scan.ofBytes capacity _ := report_readSections h hc
  obtain ⟨hfound, hend, hdropped⟩ := Scan.scanFrom_padded 0 fits all_filler broken
  rw [← Scan.ofBytes, ← hreport] at hfound hend hdropped
  refine ⟨?_, hend, ?_, ?_⟩
  · rw [← hfound, Reader.Run.report, List.map_map]
    rfl
  · have hread := Reader.bytesRead_run (r := .ofCapacity capacity) h hc hend
    rwa [show (Reader.ofCapacity capacity).bytesRead = 0 from rfl, Nat.zero_add] at hread
  · rw [Nat.zero_add] at hdropped
    exact hdropped

/-- A section of which the payload looks like filler and the head of another section. -/
def disguised : PaddedSection where
  filler := [0xFF, 0x00]
  raw := ⟨[0x4E, 0xF0, 0x06, 0x00, 0xFF, 0x4E, 0x70, 0x02, 0x00], rfl, by decide⟩
  all_filler := List.forall_mem_cons.mpr ⟨rfl, List.forall_mem_singleton.mpr rfl⟩
  start := rfl

theorem readSections_disguised :
    let data := disguised.bytes ++ disguised.bytes ++ [0x00] ++ [0x4E, 0xF0, 0x06, 0xFF]
    Delivers (Delivery.mk data [2, 1, 7, 5]) data ∧
      BrokenOff 9 [0x4E, 0xF0, 0x06, 0xFF] ∧
      let run := readSections (Delivery.mk data [2, 1, 7, 5]) 9
      run.sightings.map (·.found) = [disguised.raw, disguised.raw] ∧ run.ending = .exhausted ∧
        run.reader.bytesRead = 27 ∧ run.reader.bytesSkipped = 5 := by
  have hd := Delivery.delivers
    ⟨disguised.bytes ++ disguised.bytes ++ [0x00] ++ [0x4E, 0xF0, 0x06, 0xFF], [2, 1, 7, 5]⟩
    (by decide)
  have hbroken : BrokenOff 9 [0x4E, 0xF0, 0x06, 0xFF] :=
    Or.inr ⟨⟨[0x4E, 0xF0, 0x06, 0xFF, 1, 2, 3, 4, 5], rfl, by decide⟩, rfl, by decide, by decide,
      by decide⟩
  exact ⟨hd, hbroken, @readSections_padded _ _ _ 9 [disguised, disguised] [0x00] _
    (by decide) (by decide) (List.forall_mem_singleton.mpr rfl) hbroken hd⟩

end BroadcastGuide
