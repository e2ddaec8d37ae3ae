import BroadcastGuide.Delivery

/-! What a byte source delivers, whatever the sizes that its reader asks for. -/

namespace BroadcastGuide

open ByteSource (read remaining)

variable {σ : Type} [ByteSource σ]

/-- A source delivers a byte string if each read for at least one byte takes a piece off its front,
and a non-empty piece as long as there is something left. -/
inductive Delivers : σ → Octets → Prop
  | intro {s : σ} {data : Octets}
      (front : ∀ n, 0 < n → (read s n).1 <+: data)
      (answer : ∀ n, 0 < n → data ≠ [] → (read s n).1 ≠ [])
      (rest : ∀ n, 0 < n → data ≠ [] → Delivers (read s n).2 (data.drop (read s n).1.length)) :
      Delivers s data

namespace Delivers

/-- A read takes its piece, and the source goes on to deliver what stands after it. -/
theorem read_cases {s : σ} {data : Octets} (h : Delivers s data) {n : Nat} (hn : 0 < n) :
    ((read s n).1 = [] ∧ data = []) ∨
      ∃ rest, (read s n).1 ≠ [] ∧ data = (read s n).1 ++ rest ∧ Delivers (read s n).2 rest := by
  obtain ⟨front, answer, rest⟩ := h
  by_cases hd : data = []
  · refine Or.inl ⟨?_, hd⟩
    simpa [hd] using front n hn
  · refine Or.inr ⟨data.drop (read s n).1.length, answer n hn hd, ?_, rest n hn hd⟩
    obtain ⟨tail, htail⟩ := front n hn
    rw [← htail, List.drop_left]

end Delivers

namespace Delivery

theorem chunks_read_pos {s : Delivery} (h : ∀ c ∈ s.chunks, 0 < c) (n : Nat) :
    ∀ c ∈ (s.read n).2.chunks, 0 < c :=
  fun c hc => h c (List.mem_of_mem_tail hc)

theorem data_read (s : Delivery) (n : Nat) :
    (s.read n).2.data = s.data.drop (s.read n).1.length :=
  calc (s.read n).2.data
    _ = ((s.read n).1 ++ (s.read n).2.data).drop (s.read n).1.length := List.drop_left.symm
    _ = s.data.drop (s.read n).1.length := by rw [read_append]

theorem read_ne_nil {s : Delivery} (h : ∀ c ∈ s.chunks, 0 < c) {n : Nat} (hn : 0 < n)
    (hd : s.data ≠ []) : (s.read n).1 ≠ [] := by
  obtain ⟨data, chunks⟩ := s
  cases chunks with
  | nil => simpa [read] using ⟨Nat.pos_iff_ne_zero.mp hn, hd⟩
  | cons c rest =>
    have hc : c ≠ 0 := Nat.pos_iff_ne_zero.mp (h c List.mem_cons_self)
    simpa [read] using ⟨⟨Nat.pos_iff_ne_zero.mp hn, hc⟩, hd⟩

/-- A delivery in non-empty pieces delivers its data. -/
theorem delivers (s : Delivery) (h : ∀ c ∈ s.chunks, 0 < c) : Delivers s s.data := by
  induction hk : s.data.length using Nat.strongRecOn generalizing s with
  | ind k ih =>
    refine ⟨fun n _ => ⟨_, read_append s n⟩, fun n hn => read_ne_nil h hn, fun n hn hd => ?_⟩
    have hpos := List.length_pos_iff.mpr (read_ne_nil h hn hd)
    have hlen := length_read_add s n
    have := ih (s.read n).2.data.length (by omega) (s.read n).2 (chunks_read_pos h n) rfl
    rwa [data_read] at this

end Delivery

/-- Reads until an empty answer, asking for the given sizes in turn: all bytes read, and the source
after them. -/
def readOut (sizes : Nat → Nat) (s : σ) : Octets × σ :=
  let answer := read s (sizes 0)
  if answer.1.isEmpty then ([], answer.2)
  else
    let tail := readOut (fun i => sizes (i + 1)) answer.2
    (answer.1 ++ tail.1, tail.2)
termination_by remaining s
decreasing_by
  rename_i hne
  have h₁ := ByteSource.remaining_read_le s (sizes 0)
  have h₂ : 0 < (read s (sizes 0)).1.length := by
    simpa [List.length_pos_iff, answer] using hne
  omega

end BroadcastGuide
