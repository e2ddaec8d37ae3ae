import BroadcastGuide.Proofs.Section.Scan
import Mathlib.Algebra.GroupWithZero.Nat
import Mathlib.Logic.Relation

/-! The bytes of a reader. At every point of a run over any source, all that was read was dropped,
or went into a section, or is in the buffer; and the buffer always has room for the next read. -/

namespace BroadcastGuide

namespace Reader

def room (r : Reader) : Nat := r.capacity - r.buffer.length

/-- The points of a run over a source with a given way to read, which may never end: the sections
handed out so far, the reader, and what the source has become. -/
inductive Reaches {σ : Type} (read : σ → Nat → Octets × σ) (capacity : Nat) (source : σ) :
    List RawSection → Reader → σ → Prop
  | start : Reaches read capacity source [] (.ofCapacity capacity) source
  | settle {found r s} (h : Reaches read capacity source found r s) :
      Reaches read capacity source found r.settle s
  | handOut {found r s raw} (h : Reaches read capacity source found r s)
      (whole : r.head = .whole raw) :
      Reaches read capacity source (found ++ [raw]) (r.settle.dropSection raw) s
  | ask {found r s} (h : Reaches read capacity source found r s) (waits : r.head = .incomplete) :
      Reaches read capacity source found (r.settle.push (read s r.settle.room).1)
        (read s r.settle.room).2

def ReadOn {σ : Type} (read : σ → Nat → Octets × σ) : σ → σ → Prop :=
  Relation.ReflTransGen fun s next => ∃ n, 0 < n ∧ (read s n).2 = next

structure IsFramed (s : RawSection) : Prop where
  not_idle : s.tableId ≠ 0x00
  not_stuffing : s.tableId ≠ 0xFF
  four_le : 4 ≤ s.length
  length_bytes : s.bytes.length = 3 + s.length

structure Balanced (capacity : Nat) (found : List RawSection) (r : Reader) : Prop where
  capacity_eq : r.capacity = capacity
  bytesRead_eq :
    r.bytesRead = r.bytesSkipped + (found.map (·.bytes.length)).sum + r.buffer.length
  length_le : r.buffer.length ≤ capacity
  framed : ∀ s ∈ found, IsFramed s

namespace Balanced

variable {capacity : Nat} {found : List RawSection} {r : Reader}

theorem ofCapacity (capacity : Nat) : Balanced capacity [] (.ofCapacity capacity) :=
  ⟨rfl, rfl, Nat.zero_le _, fun _ h => nomatch h⟩

/-- What is dropped from the buffer is counted. -/
theorem settle (h : Balanced capacity found r) : Balanced capacity found r.settle := by
  have hread := h.bytesRead_eq
  have hsplit := countUnframed_add_length r.buffer
  refine ⟨h.capacity_eq, ?_, ?_, h.framed⟩
  · simp only [Reader.settle]
    omega
  · exact Nat.le_trans r.length_settle_le h.length_le

/-- A section leaves the buffer as it is handed out. -/
theorem handOut {raw : RawSection} (h : Balanced capacity found r) (whole : r.head = .whole raw) :
    Balanced capacity (found ++ [raw]) (r.settle.dropSection raw) := by
  obtain ⟨hbuf, start, _⟩ := head_whole whole
  have hread := h.settle.bytesRead_eq
  have hfits := h.settle.length_le
  have hlen : r.settle.buffer.length =
      raw.bytes.length + (r.settle.dropSection raw).buffer.length := by
    rw [← List.length_append, ← hbuf]
  have hframed : IsFramed raw := by
    simp only [isFiller, Bool.or_eq_false_iff, beq_eq_false_iff_ne] at start
    exact ⟨start.1, start.2, raw.four_le, raw.length_bytes⟩
  refine ⟨h.capacity_eq, ?_, by omega, ?_⟩
  · rw [List.map_append, List.sum_append, List.map_singleton, List.sum_singleton]
    simp only [dropSection] at hlen ⊢
    omega
  · intro s hs
    rcases List.mem_append.mp hs with hs | hs
    · exact h.framed s hs
    · rw [List.mem_singleton.mp hs]
      exact hframed

/-- An answer that is no longer than asked for goes into the buffer. -/
theorem push (h : Balanced capacity found r) {answer : Octets} (fits : answer.length ≤ r.room) :
    Balanced capacity found (r.push answer) := by
  have hread := h.bytesRead_eq
  have hroom : r.room = capacity - r.buffer.length := by rw [room, h.capacity_eq]
  have hfits := h.length_le
  refine ⟨h.capacity_eq, ?_, ?_, h.framed⟩
  · simp only [Reader.push, List.length_append]
    omega
  · simp only [Reader.push, List.length_append]
    omega

end Balanced

section AnySource

variable {σ : Type} {read : σ → Nat → Octets × σ} {capacity : Nat} {source : σ}

theorem Reaches.balanced (honest : ∀ s n, (read s n).1.length ≤ n) {found : List RawSection}
    {r : Reader} {s : σ} (h : Reaches read capacity source found r s) :
    Balanced capacity found r := by
  induction h with
  | start => exact .ofCapacity capacity
  | settle _ ih => exact ih.settle
  | handOut _ whole ih => exact ih.handOut whole
  | ask _ _ ih => exact ih.settle.push (honest _ _)

/-- A reader that waits has dropped enough to have room, so no read asks for nothing. -/
theorem Reaches.room_pos (hc : 3 ≤ capacity) (honest : ∀ s n, (read s n).1.length ≤ n)
    {found : List RawSection} {r : Reader} {s : σ} (h : Reaches read capacity source found r s)
    (waits : r.head = .incomplete) : 0 < r.settle.room := by
  refine room_of_incomplete waits ?_
  rw [(h.balanced honest).capacity_eq]
  exact hc

theorem Reaches.readOn (hc : 3 ≤ capacity) (honest : ∀ s n, (read s n).1.length ≤ n)
    {found : List RawSection} {r : Reader} {s : σ} (h : Reaches read capacity source found r s) :
    ReadOn read source s := by
  induction h with
  | start => exact .refl
  | settle _ ih => exact ih
  | handOut _ _ ih => exact ih
  | ask h waits ih => exact ih.tail ⟨_, h.room_pos hc honest waits, rfl⟩

end AnySource

section Run

variable {σ : Type} [ByteSource σ] {capacity : Nat} {source : σ}

/-- A run goes on from a point to the points at which it hands out its sections, and to its end. -/
theorem reaches_run {found : List RawSection} {r : Reader} {s : σ}
    (h : Reaches ByteSource.read capacity source found r s) :
    (∀ before seen after, (r.run s).sightings = before ++ seen :: after →
      Reaches ByteSource.read capacity source (found ++ (before ++ [seen]).map (·.found))
        seen.reader seen.source) ∧
    Reaches ByteSource.read capacity source (found ++ (r.run s).sightings.map (·.found))
      (r.run s).reader (r.run s).source := by
  fun_induction run r s generalizing found with
  | case1 r s raw whole next rest =>
    rename_i ih
    obtain ⟨hseen, hend⟩ := ih (h.handOut whole)
    refine ⟨fun before seen after hsplit => ?_, ?_⟩
    · cases before with
      | nil =>
        obtain ⟨rfl, _⟩ := List.cons.inj hsplit
        exact h.handOut whole
      | cons first before =>
        obtain ⟨hfirst, htail⟩ := List.cons.inj hsplit
        have hreached := hseen before seen after htail
        rw [List.cons_append, List.map_cons, ← hfirst]
        rwa [List.append_assoc] at hreached
    · rwa [List.append_assoc] at hend
  | case2 r s e large =>
    refine ⟨fun before seen after hsplit => ?_, ?_⟩
    · simp at hsplit
    · rw [List.map_nil, List.append_nil]
      exact h.settle
  | case3 r s waits answer =>
    rename_i hempty
    refine ⟨fun before seen after hsplit => ?_, ?_⟩
    · simp at hsplit
    · have hnil : answer.1 = [] := List.isEmpty_iff.mp hempty
      have hsame : r.settle.push (ByteSource.read s r.settle.room).1 = r.settle := by
        rw [show (ByteSource.read s r.settle.room).1 = [] from hnil, push, List.append_nil]
        rfl
      have hreached := h.ask waits
      rw [hsame] at hreached
      rw [List.map_nil, List.append_nil]
      exact hreached
  | case4 r s waits answer hne =>
    rename_i ih
    exact ih (h.ask waits)

/-- A run that ends with its source ends on an empty answer to a read for at least one byte. -/
theorem exists_last_read (hc : 3 ≤ capacity) {found : List RawSection} {r : Reader} {s : σ}
    (h : Reaches ByteSource.read capacity source found r s)
    (hend : (r.run s).ending = .exhausted) :
    0 < (r.run s).reader.room ∧ ∃ last,
      Reaches ByteSource.read capacity source (found ++ (r.run s).sightings.map (·.found))
        (r.run s).reader last ∧
      ByteSource.read last (r.run s).reader.room = ([], (r.run s).source) := by
  fun_induction run r s generalizing found with
  | case1 r s raw whole next rest =>
    rename_i ih
    have hlast := ih (h.handOut whole) hend
    rwa [List.append_assoc] at hlast
  | case2 => cases hend
  | case3 r s waits answer =>
    rename_i hempty
    rw [List.map_nil, List.append_nil]
    exact ⟨h.room_pos hc ByteSource.length_read_le waits, s, h.settle,
      Prod.ext (List.isEmpty_iff.mp hempty) rfl⟩
  | case4 r s waits answer hne =>
    rename_i ih
    exact ih (h.ask waits) hend

end Run

end Reader

open Reader (Reaches ReadOn Balanced)

/-- At every point of a run over any source that keeps to the sizes asked for, the bytes read are
those dropped, those of the sections handed out and those in the buffer, the buffer is within the
capacity, the sections are framed, and every read so far and the one that a reader waits for ask for
at least one byte. The points at which a run hands out a section and its end are such points, and
where it ends with its source, the source had nothing to answer to a read for at least one byte. -/
theorem readSections_balanced {capacity : Nat} (hc : 3 ≤ capacity) :
    (∀ {σ : Type} {read : σ → Nat → Octets × σ}, (∀ s n, (read s n).1.length ≤ n) →
      ∀ {source : σ} {found : List RawSection} {r : Reader} {s : σ},
        Reaches read capacity source found r s →
        Balanced capacity found r ∧ ReadOn read source s ∧
          (r.head = .incomplete → 0 < r.settle.room)) ∧
    ∀ {σ : Type} [ByteSource σ] (source : σ),
      let run := readSections source capacity
      (∀ before seen after, run.sightings = before ++ seen :: after →
        Reaches ByteSource.read capacity source ((before ++ [seen]).map (·.found)) seen.reader
          seen.source) ∧
      Reaches ByteSource.read capacity source (run.sightings.map (·.found)) run.reader run.source ∧
      (run.ending = .exhausted → 0 < run.reader.room ∧ ∃ last,
        Reaches ByteSource.read capacity source (run.sightings.map (·.found)) run.reader last ∧
        ByteSource.read last run.reader.room = ([], run.source)) := by
  refine ⟨fun honest _ _ _ _ h => ?_, fun source => ?_⟩
  · exact ⟨h.balanced honest, h.readOn hc honest, h.room_pos hc honest⟩
  · have hstart := @Reaches.start _ ByteSource.read capacity source
    obtain ⟨hseen, hlast⟩ := Reader.reaches_run hstart
    exact ⟨hseen, hlast, Reader.exists_last_read hc hstart⟩

def endless (_ : Unit) (n : Nat) : Octets × Unit := (List.replicate n 0xFF, ())

def stuffedDelivery : Delivery := ⟨[0xFF, 0x4E, 0x70, 0x04, 1, 2, 3, 4, 0x4E], [3, 2]⟩

/-- A read of a source without end fills the buffer, and the next one has room again. -/
theorem readSections_balanced_stuffing :
    let full : Reader := ⟨7, List.replicate 7 0xFF, 7, 0⟩
    3 ≤ 7 ∧ (∀ s n, (endless s n).1.length ≤ n) ∧ Reaches endless 7 () [] full () ∧
      Balanced 7 [] full ∧ full.head = .incomplete ∧ 0 < full.settle.room ∧
      Reaches ByteSource.read 7 stuffedDelivery
        ((readSections stuffedDelivery 7).sightings.map (·.found))
        (readSections stuffedDelivery 7).reader (readSections stuffedDelivery 7).source ∧
      (readSections stuffedDelivery 7).ending = .exhausted ∧
      0 < (readSections stuffedDelivery 7).reader.room := by
  intro full
  have hhonest : ∀ s n, (endless s n).1.length ≤ n := fun _ n =>
    Nat.le_of_eq List.length_replicate
  have hempty : (Reader.ofCapacity 7).head = .incomplete := rfl
  have hfull : Reaches endless 7 () [] full () := Reaches.start.ask hempty
  have hwaits : full.head = .incomplete := rfl
  have hscan : (Scan.ofBytes 7 stuffedDelivery.data).ending = .exhausted := by cbv
  have hreport := report_readSections (Delivery.delivers stuffedDelivery (by decide))
    (show 3 ≤ 7 by decide)
  have hended : (readSections stuffedDelivery 7).ending = .exhausted :=
    (congrArg (·.ending) hreport).trans hscan
  obtain ⟨hpoints, hruns⟩ := readSections_balanced (show 3 ≤ 7 by decide)
  obtain ⟨hbalanced, _, hroom⟩ := hpoints hhonest hfull
  obtain ⟨_, hlast, hend⟩ := hruns stuffedDelivery
  exact ⟨by decide, hhonest, hfull, hbalanced, hwaits, hroom hwaits, hlast, hended,
    (hend hended).1⟩

end BroadcastGuide
