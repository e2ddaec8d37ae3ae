import BroadcastGuide.Proofs.Section.Scan

/-! Between two sections, a header that declares too short a length. The reader drops it byte by
byte, and the next section is found unless a byte on the way looks like the start of one. -/

namespace BroadcastGuide

/-- The frame of a section with no room for a checksum in it. -/
structure Stub where
  bytes : Octets
  length_bytes : bytes.length = 3 + declaredLength bytes
  lt_four : declaredLength bytes < 4
  start : ∀ b ∈ bytes.head?, isFiller b = false

def LooksFramed : Octets → Prop
  | [] => False
  | b :: rest => isFiller b = false ∧ 2 ≤ rest.length ∧ 4 ≤ declaredLength (b :: rest)

instance : (bytes : Octets) → Decidable (LooksFramed bytes)
  | [] => inferInstanceAs (Decidable False)
  | _ :: _ => inferInstanceAs (Decidable (_ ∧ _ ∧ _))

theorem LooksFramed.exists_cons {bytes : Octets} (h : LooksFramed bytes) :
    ∃ b rest, bytes = b :: rest ∧ isFiller b = false ∧ 2 ≤ rest.length ∧
      4 ≤ declaredLength (b :: rest) := by
  cases bytes with
  | nil => exact h.elim
  | cons b rest => exact ⟨b, rest, rfl, h⟩

/-- At none of these bytes does a section seem to start, whatever more it would take of the bytes
that come next. -/
def IsUnframed (bytes next : Octets) : Prop :=
  ∀ i < bytes.length, ¬LooksFramed (bytes.drop i ++ next)

instance (bytes next : Octets) : Decidable (IsUnframed bytes next) :=
  inferInstanceAs (Decidable (∀ i < bytes.length, ¬LooksFramed (bytes.drop i ++ next)))

theorem isUnframed_cons {b : UInt8} {rest next : Octets} :
    IsUnframed (b :: rest) next ↔ ¬LooksFramed (b :: rest ++ next) ∧ IsUnframed rest next := by
  constructor
  · intro h
    refine ⟨h 0 (Nat.zero_lt_succ _), ?_⟩
    intro i hi
    exact h (i + 1) (Nat.succ_lt_succ hi)
  · rintro ⟨hhead, hrest⟩ i hi
    cases i with
    | zero => exact hhead
    | succ i => exact hrest i (Nat.lt_of_succ_lt_succ hi)

namespace Scan

variable {capacity dropped : Nat}

theorem scanFrom_not_looksFramed {b : UInt8} {rest : Octets} (header : 2 ≤ rest.length)
    (h : ¬LooksFramed (b :: rest)) :
    scanFrom capacity dropped (b :: rest) = scanFrom capacity (dropped + 1) rest := by
  cases hb : isFiller b with
  | true => exact scanFrom_filler hb rest
  | false =>
    have short : declaredLength (b :: rest) < 4 :=
      Nat.lt_of_not_le fun room => h ⟨hb, header, room⟩
    exact scanFrom_unframed hb header short

/-- Bytes at which no section seems to start are dropped. -/
theorem scanFrom_isUnframed {bytes next : Octets} (header : 2 ≤ next.length)
    (h : IsUnframed bytes next) :
    scanFrom capacity dropped (bytes ++ next) =
      scanFrom capacity (dropped + bytes.length) next := by
  induction bytes generalizing dropped with
  | nil => rfl
  | cons b rest ih =>
    obtain ⟨hhead, hrest⟩ := isUnframed_cons.mp h
    have hlen : 2 ≤ (rest ++ next).length := by
      rw [List.length_append]
      omega
    rw [List.cons_append, scanFrom_not_looksFramed hlen hhead, ih hrest, List.length_cons,
      Nat.add_assoc, Nat.add_comm 1]

/-- Where a section seems to start the scan ends, or it takes a section from there. -/
theorem scanFrom_looksFramed {bytes : Octets} (h : LooksFramed bytes) :
    (scanFrom capacity dropped bytes).sections = [] ∨
      ∃ (s : RawSection) (rest : Octets), bytes = s.bytes ++ rest ∧
        (scanFrom capacity dropped bytes).sections =
          ⟨s, dropped⟩ :: (scanFrom capacity dropped rest).sections := by
  obtain ⟨b, rest, rfl, hb, header, room⟩ := h.exists_cons
  by_cases large : capacity < 3 + declaredLength (b :: rest)
  · left
    rw [scanFrom_tooLarge hb (by omega) room large]
  · by_cases part : (b :: rest).length < 3 + declaredLength (b :: rest)
    · left
      rw [scanFrom_incomplete hb room (Nat.le_of_not_lt large) part]
    · right
      let s := RawSection.cut (b :: rest) (Nat.le_of_not_lt part) room
      have hsplit : s.bytes ++ (b :: rest).drop (3 + declaredLength (b :: rest)) = b :: rest :=
        List.take_append_drop _ _
      have hlen : s.bytes.length = 3 + declaredLength (b :: rest) := RawSection.length_cut ..
      have hstart : isFiller s.tableId = false := by
        rw [RawSection.tableId_cut]
        exact hb
      have hscan := @scanFrom_section capacity dropped s hstart (by omega)
        ((b :: rest).drop (3 + declaredLength (b :: rest)))
      rw [hsplit] at hscan
      exact ⟨s, _, hsplit.symm, by rw [hscan]⟩

/-- No section is longer than what it was found in. -/
theorem length_le_of_mem_sections {bytes : Octets} {found : Found}
    (h : found ∈ (scanFrom capacity dropped bytes).sections) :
    found.found.bytes.length ≤ bytes.length := by
  fun_induction scanFrom capacity dropped bytes with
  | case1 => cases h
  | case2 dropped b rest hb ih =>
    have := ih h
    rw [List.length_cons]
    omega
  | case3 => cases h
  | case4 dropped b rest hb header short ih =>
    have := ih h
    rw [List.length_cons]
    omega
  | case5 => cases h
  | case6 => cases h
  | case7 dropped b rest hb header short size large whole s tail ih =>
    rcases List.mem_cons.mp h with rfl | h
    · have hlen : s.bytes.length = size := RawSection.length_cut ..
      dsimp only
      omega
    · have := ih h
      rw [List.length_drop] at this
      omega

end Scan

/-- Unless no section seems to start among some bytes, there is a first one that does. -/
theorem exists_looksFramed {bytes next : Octets} (h : ¬IsUnframed bytes next) :
    ∃ before after, bytes = before ++ after ∧ after ≠ [] ∧ IsUnframed before (after ++ next) ∧
      LooksFramed (after ++ next) := by
  induction bytes with
  | nil => exact absurd (fun i hi => absurd hi (Nat.not_lt_zero i)) h
  | cons b rest ih =>
    by_cases hhead : LooksFramed (b :: rest ++ next)
    · exact ⟨[], b :: rest, rfl, List.cons_ne_nil b rest, fun i hi => absurd hi (Nat.not_lt_zero i),
        hhead⟩
    · have hrest : ¬IsUnframed rest next := fun hrest => h (isUnframed_cons.mpr ⟨hhead, hrest⟩)
      obtain ⟨before, after, rfl, hne, hbefore, hafter⟩ := ih hrest
      refine ⟨b :: before, after, rfl, hne, isUnframed_cons.mpr ⟨?_, hbefore⟩, hafter⟩
      simpa only [List.cons_append, List.append_assoc] using hhead

namespace Stub

variable (u : Stub)

theorem length_le : u.bytes.length ≤ 6 := by
  have := u.length_bytes
  have := u.lt_four
  omega

variable {u} {b : RawSection} {capacity dropped : Nat}

theorem scanFrom_of_isUnframed (start : isFiller b.tableId = false)
    (fits : b.bytes.length ≤ capacity) (h : IsUnframed u.bytes b.bytes) :
    Scan.scanFrom capacity dropped (u.bytes ++ b.bytes) =
      ⟨[⟨b, dropped + u.bytes.length⟩], .exhausted, dropped + u.bytes.length⟩ := by
  have header : 2 ≤ b.bytes.length := by
    have := b.length_bytes
    omega
  have hscan := @Scan.scanFrom_section capacity (dropped + u.bytes.length) b start fits []
  rw [List.append_nil, Scan.scanFrom_nil] at hscan
  rw [Scan.scanFrom_isUnframed header h, hscan]

/-- What is taken for a section that starts in the stub goes on into the section behind it, of which
too little is left then. -/
theorem isUnframed_of_mem (h : ⟨b, dropped + u.bytes.length⟩ ∈
      (Scan.scanFrom capacity dropped (u.bytes ++ b.bytes)).sections) :
    IsUnframed u.bytes b.bytes := by
  apply Decidable.byContradiction
  intro hframed
  obtain ⟨before, after, hu, hne, hbefore, hafter⟩ := exists_looksFramed hframed
  have hlength := u.length_le
  have hpos := List.length_pos_iff.mpr hne
  have header : 2 ≤ (after ++ b.bytes).length := by
    obtain ⟨first, rest, hcons, -, hrest, -⟩ := hafter.exists_cons
    rw [hcons, List.length_cons]
    omega
  rw [hu, List.length_append] at hlength h
  rw [List.append_assoc, Scan.scanFrom_isUnframed header hbefore] at h
  rcases Scan.scanFrom_looksFramed hafter with hnil | ⟨s, rest, hsplit, hsections⟩
  · rw [hnil] at h
    cases h
  · rw [hsections] at h
    rcases List.mem_cons.mp h with heq | hmem
    · have hdropped := congrArg Found.dropped heq
      dsimp only at hdropped
      omega
    · have hrest := Scan.length_le_of_mem_sections hmem
      have htotal := congrArg List.length hsplit
      have hlen := s.length_bytes
      have hroom := s.four_le
      simp only [List.length_append] at htotal
      dsimp only at hrest
      omega

end Stub

/-- Ahead of a section there is a stub, and ahead of the stub another section. The reader finds the
first section. It finds the last one in its place, with the bytes of the stub and no others dropped,
if and only if at no byte of the stub a section seems to start. -/
theorem readSections_stub {σ : Type} [ByteSource σ] {source : σ} {capacity : Nat}
    {a b : RawSection} {u : Stub} (start : ∀ s ∈ [a, b], isFiller s.tableId = false)
    (fits : ∀ s ∈ [a, b], s.bytes.length ≤ capacity)
    (h : Delivers source (a.bytes ++ u.bytes ++ b.bytes)) :
    let report := (readSections source capacity).report
    report.sections.head? = some ⟨a, 0⟩ ∧
      (⟨b, u.bytes.length⟩ ∈ report.sections ↔ IsUnframed u.bytes b.bytes) ∧
      (IsUnframed u.bytes b.bytes →
        report = ⟨[⟨a, 0⟩, ⟨b, u.bytes.length⟩], .exhausted, u.bytes.length⟩) := by
  intro report
  have hc : 3 ≤ capacity := by
    have hroom := a.four_le
    have hlen := a.length_bytes
    have hfits := fits a List.mem_cons_self
    omega
  have hb : b ∈ [a, b] := List.mem_cons_of_mem a List.mem_cons_self
  have hreport : report = Scan.ofBytes capacity (a.bytes ++ (u.bytes ++ b.bytes)) := by
    rw [← List.append_assoc]
    exact report_readSections h hc
  rw [Scan.ofBytes, Scan.scanFrom_section a (start a List.mem_cons_self)
    (fits a List.mem_cons_self)] at hreport
  have hfound (clear : IsUnframed u.bytes b.bytes) :
      report = ⟨[⟨a, 0⟩, ⟨b, u.bytes.length⟩], .exhausted, u.bytes.length⟩ := by
    rw [hreport, Stub.scanFrom_of_isUnframed (start b hb) (fits b hb) clear, Nat.zero_add]
  refine ⟨by rw [hreport]; rfl, ⟨?_, ?_⟩, hfound⟩
  · intro hmem
    rw [hreport] at hmem
    rcases List.mem_cons.mp hmem with heq | hmem
    · have hlength := u.length_bytes
      have hdropped := congrArg Found.dropped heq
      dsimp only at hdropped
      omega
    · apply Stub.isUnframed_of_mem
      rwa [Nat.zero_add]
  · intro clear
    rw [hfound clear]
    exact List.mem_cons_of_mem _ List.mem_cons_self

def firstSection : RawSection :=
  ⟨[0x4E, 0xF0, 9, 0, 1, 0xC1, 0, 0, 204, 195, 53, 137], rfl, by decide⟩

def secondSection : RawSection :=
  ⟨[0x4E, 0xF0, 9, 0, 2, 0xC1, 0, 0, 172, 180, 135, 231], rfl, by decide⟩

/-- A stub that has zero for its second byte. -/
def plainStub : Stub := ⟨[0x4E, 0x00, 2, 0, 0], rfl, by decide, by rintro _ ⟨⟩; rfl⟩

/-- A stub in long form, of which the second byte is taken for a table number. -/
def longStub : Stub := ⟨[0x4E, 0xF0, 2, 0, 0], rfl, by decide, by rintro _ ⟨⟩; rfl⟩

theorem readSections_plainStub :
    let data := firstSection.bytes ++ plainStub.bytes ++ secondSection.bytes
    Delivers (Delivery.mk data [5, 9, 1]) data ∧
      IsUnframed plainStub.bytes secondSection.bytes ∧
      (readSections (Delivery.mk data [5, 9, 1]) 4096).report =
        ⟨[⟨firstSection, 0⟩, ⟨secondSection, 5⟩], .exhausted, 5⟩ := by
  intro data
  have hd := Delivery.delivers ⟨data, [5, 9, 1]⟩ (by decide)
  have clear : IsUnframed plainStub.bytes secondSection.bytes := by decide
  exact ⟨hd, clear, (readSections_stub (by decide) (by decide) hd).2.2 clear⟩

theorem readSections_longStub :
    let data := firstSection.bytes ++ longStub.bytes ++ secondSection.bytes
    (∀ s ∈ [firstSection, secondSection],
        isFiller s.tableId = false ∧ s.bytes.length ≤ 4096) ∧
      Delivers (Delivery.mk data [5, 9, 1]) data ∧
      (readSections (Delivery.mk data [5, 9, 1]) 4096).report =
        ⟨[⟨firstSection, 0⟩], .exhausted, 1⟩ := by
  intro data
  have hd := Delivery.delivers ⟨data, [5, 9, 1]⟩ (by decide)
  refine ⟨by decide, hd, ?_⟩
  rw [report_readSections hd (by decide)]
  cbv

end BroadcastGuide
