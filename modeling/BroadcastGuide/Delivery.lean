import BroadcastGuide.Octets

/-!
Byte strings that arrive in pieces. A reader asks for a number of bytes and gets at most that many;
an empty answer ends the stream.
-/

namespace BroadcastGuide

/-- Something bytes can be read from. It holds finitely many, and a read takes out what it gives. -/
class ByteSource (σ : Type) where
  read : σ → Nat → Octets × σ
  /-- A bound on the bytes still to come. -/
  remaining : σ → Nat
  length_read_le : ∀ s n, (read s n).1.length ≤ n
  remaining_read_le : ∀ s n, (read s n).1.length + remaining (read s n).2 ≤ remaining s

/-- A byte string and the sizes of its pieces. Once the sizes are used up, a read gets all that it
asks for. -/
structure Delivery where
  data : Octets
  chunks : List Nat
  deriving DecidableEq, Repr

namespace Delivery

/-- Each read uses up one piece size, even at the end of the data. -/
def read (s : Delivery) (n : Nat) : Octets × Delivery :=
  let size := match s.chunks with
    | [] => n
    | c :: _ => min n c
  (s.data.take size, ⟨s.data.drop size, s.chunks.tail⟩)

theorem length_read_le (s : Delivery) (n : Nat) : (s.read n).1.length ≤ n := by
  unfold read
  cases s.chunks
  · exact List.length_take_le _ _
  · exact Nat.le_trans (List.length_take_le _ _) (Nat.min_le_left _ _)

theorem read_append (s : Delivery) (n : Nat) : (s.read n).1 ++ (s.read n).2.data = s.data := by
  simp [read]

theorem length_read_add (s : Delivery) (n : Nat) :
    (s.read n).1.length + (s.read n).2.data.length = s.data.length := by
  rw [← List.length_append, read_append]

instance : ByteSource Delivery where
  read := read
  remaining s := s.data.length
  length_read_le := length_read_le
  remaining_read_le s n := Nat.le_of_eq (length_read_add s n)

end Delivery

end BroadcastGuide
