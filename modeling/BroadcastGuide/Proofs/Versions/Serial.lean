import BroadcastGuide.Proofs.Versions.Greatest

/-! Versions that count modulo thirty-two. By the serial policy they are received as versions
without end are by the direct policy, as long as no announcement is far from the greatest before
it. -/

namespace BroadcastGuide

namespace Announcement

/-- The announcement with the five bits of its version that are sent. -/
def wrapped (a : Announcement) : Announcement := ⟨a.key, a.version % 32⟩

/-- At most sixteen versions behind the greatest of the event before it, and at most fifteen
ahead. -/
def Near (past : List Announcement) (a : Announcement) : Prop :=
  ∀ m ∈ greatest? a.key past, m - 16 ≤ a.version ∧ a.version ≤ m + 15

instance (past : List Announcement) (a : Announcement) : Decidable (a.Near past) :=
  inferInstanceAs (Decidable (∀ m ∈ greatest? a.key past, _ ∧ _))

/-- Each announcement is near those before it. -/
def StayNear (l : List Announcement) : Prop :=
  ∀ i (h : i < l.length), l[i].Near (l.take i)

instance (l : List Announcement) : Decidable (StayNear l) :=
  inferInstanceAs (Decidable (∀ i (h : i < l.length), l[i].Near (l.take i)))

theorem StayNear.near {past rest : List Announcement} {a : Announcement}
    (h : StayNear (past ++ a :: rest)) : a.Near past := by
  have ha := h past.length (by simp)
  simpa using ha

theorem StayNear.take {l : List Announcement} (h : StayNear l) (n : Nat) : StayNear (l.take n) := by
  intro i hi
  have hle : i ≤ n := Nat.le_of_lt (Nat.lt_of_lt_of_le hi (List.length_take_le _ _))
  have ha := h i (Nat.lt_of_lt_of_le hi (List.length_take_le' _ _))
  rwa [List.getElem_take, List.take_take, Nat.min_eq_left hle]

end Announcement

namespace Versions

open Announcement

/-- Near the version stored, the remainders compare as the numbers do: sixteen behind is older, and
fifteen ahead is newer. -/
theorem supersedes_serial {incoming stored : Int} (low : stored - 16 ≤ incoming)
    (high : incoming ≤ stored + 15) :
    VersionPolicy.serial.supersedes (incoming % 32) (stored % 32) =
      VersionPolicy.direct.supersedes incoming stored := by
  simp only [VersionPolicy.supersedes, ← Bool.decide_and, decide_eq_decide]
  omega

/-- The same events have versions stored, one store the remainders of the other. -/
def Wraps (v w : Versions) : Prop := ∀ key, w.version? key = (v.version? key).map (· % 32)

theorem Wraps.insert {v w : Versions} (h : Wraps v w) (a : Announcement) :
    Wraps (v.insert a.key a.version) (w.insert a.key (a.version % 32)) := by
  intro key
  by_cases hkey : key = a.key
  · rw [hkey, version?_insert_self, version?_insert_self]
    rfl
  · rw [version?_insert_of_ne _ _ hkey, version?_insert_of_ne _ _ hkey, h]

theorem Wraps.receive {v w : Versions} (h : Wraps v w) {a : Announcement}
    (near : ∀ m, v.version? a.key = some m → m - 16 ≤ a.version ∧ a.version ≤ m + 15) :
    (w.receive .serial a.key (a.version % 32)).1 = (v.receive .direct a.key a.version).1 ∧
      Wraps (v.receive .direct a.key a.version).2
        (w.receive .serial a.key (a.version % 32)).2 := by
  have hw := h a.key
  unfold Versions.receive
  cases hv : v.version? a.key with
  | none =>
    rw [hv, Option.map_none] at hw
    simp only [hw]
    exact ⟨trivial, h.insert a⟩
  | some stored =>
    obtain ⟨low, high⟩ := near stored hv
    rw [hv, Option.map_some] at hw
    simp only [hw, supersedes_serial low high]
    split
    · exact ⟨rfl, h.insert a⟩
    · exact ⟨rfl, h⟩

theorem Wraps.receiveAll {past l : List Announcement} {v w : Versions} (h : Wraps v w)
    (tracks : Tracks past v) (near : StayNear (past ++ l)) :
    (receiveAll .serial w (l.map wrapped)).1 = (receiveAll .direct v l).1 ∧
      Wraps (receiveAll .direct v l).2 (receiveAll .serial w (l.map wrapped)).2 := by
  induction l generalizing past v w with
  | nil => exact ⟨rfl, h⟩
  | cons a rest ih =>
    -- the greatest announced so far is what the direct store has, so the step lemma applies
    obtain ⟨hadmission, hwraps⟩ := h.receive fun m hm => near.near m (tracks a.key ▸ hm)
    rw [List.append_cons] at near
    obtain ⟨hrest, hend⟩ := ih hwraps (tracks.receive a) near
    exact ⟨congrArg₂ List.cons hadmission hrest, hend⟩

/-- Remainders received by the serial policy are received as the versions themselves are by the
direct policy, and after each the remainder of the greatest is stored, if every announcement is near
those before it. -/
theorem receiveAll_serial {l : List Announcement} (near : StayNear l) :
    (receiveAll .serial .empty (l.map wrapped)).1 = (receiveAll .direct .empty l).1 ∧
      ∀ n key, (receiveAll .serial .empty ((l.take n).map wrapped)).2.version? key =
        (greatest? key (l.take n)).map (· % 32) := by
  have hempty : Wraps .empty .empty := fun _ => rfl
  refine ⟨(hempty.receiveAll tracks_empty near).1, fun n key => ?_⟩
  rw [(hempty.receiveAll tracks_empty (near.take n)).2 key, tracks_empty.receiveAll (l.take n) key,
    List.nil_append]

/-- Two events by turns; the first goes as far ahead and as far back as it may. -/
def twoTurns : List Announcement :=
  [⟨⟨1, 10⟩, 30⟩, ⟨⟨1, 10⟩, 45⟩, ⟨⟨1, 11⟩, 31⟩, ⟨⟨1, 10⟩, 29⟩, ⟨⟨1, 10⟩, 60⟩, ⟨⟨1, 11⟩, 32⟩,
    ⟨⟨1, 10⟩, 75⟩]

theorem receiveAll_serial_twoTurns :
    StayNear twoTurns ∧
      (receiveAll .serial .empty (twoTurns.map wrapped)).1 =
        [.fresh, .updated, .fresh, .repeated, .updated, .updated, .updated] ∧
      (receiveAll .serial .empty (twoTurns.map wrapped)).2.version? ⟨1, 10⟩ = some 11 := by
  have near : StayNear twoTurns := by decide
  obtain ⟨hsame, hstored⟩ := receiveAll_serial near
  exact ⟨near, hsame.trans (by decide), (hstored 7 ⟨1, 10⟩).trans (by decide)⟩

end Versions

end BroadcastGuide
