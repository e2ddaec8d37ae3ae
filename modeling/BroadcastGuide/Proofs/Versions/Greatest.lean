import BroadcastGuide.Proofs.Versions
import Mathlib.Data.List.Dedup

/-! By the direct policy the version stored for an event is the greatest in which it was announced,
in whatever order the announcements came. -/

namespace BroadcastGuide

namespace Announcement

def versionsOf (key : EventKey) (l : List Announcement) : List Int :=
  (l.filter (·.key = key)).map (·.version)

def greatest? (key : EventKey) (l : List Announcement) : Option Int := (versionsOf key l).max?

variable {key : EventKey} {l : List Announcement}

theorem mem_versionsOf {n : Int} : n ∈ versionsOf key l ↔ ∃ a ∈ l, a.key = key ∧ a.version = n := by
  simp [versionsOf, and_assoc]

theorem greatest?_eq_none_iff : greatest? key l = none ↔ key ∉ l.map (·.key) := by
  simp [greatest?, versionsOf, List.filter_eq_nil_iff]

theorem greatest?_eq_some_iff {m : Int} : greatest? key l = some m ↔
    (∃ a ∈ l, a.key = key ∧ a.version = m) ∧ ∀ a ∈ l, a.key = key → a.version ≤ m := by
  rw [greatest?, List.max?_eq_some_iff, mem_versionsOf]
  simp only [mem_versionsOf]
  refine and_congr_right fun _ => ⟨fun h a ha hkey => h a.version ⟨a, ha, hkey, rfl⟩, ?_⟩
  rintro h _ ⟨a, ha, hkey, rfl⟩
  exact h a ha hkey

theorem greatest?_congr {l' : List Announcement} (h : ∀ a, a ∈ l ↔ a ∈ l') :
    greatest? key l = greatest? key l' := by
  refine Option.ext fun m => ?_
  simp only [greatest?_eq_some_iff, h]

theorem greatest?_concat_self (a : Announcement) : greatest? a.key (l ++ [a]) =
    some ((greatest? a.key l).elim a.version (max · a.version)) := by
  have hversions : versionsOf a.key (l ++ [a]) = versionsOf a.key l ++ [a.version] := by
    simp [versionsOf]
  rw [greatest?, greatest?, hversions]
  cases versionsOf a.key l with
  | nil => rfl
  | cons n rest =>
    rw [List.cons_append, List.max?_cons', List.max?_cons', List.foldl_append]
    rfl

theorem greatest?_concat_of_ne {a : Announcement} (h : key ≠ a.key) :
    greatest? key (l ++ [a]) = greatest? key l := by
  have hversions : versionsOf key (l ++ [a]) = versionsOf key l := by
    simp [versionsOf, h.symm]
  rw [greatest?, hversions, greatest?]

end Announcement

namespace Versions

open Announcement

def Tracks (past : List Announcement) (v : Versions) : Prop :=
  ∀ key, v.version? key = greatest? key past

theorem tracks_empty : Tracks [] .empty := fun _ => rfl

theorem Tracks.receive {past : List Announcement} {v : Versions} (h : Tracks past v)
    (a : Announcement) : Tracks (past ++ [a]) (v.receive .direct a.key a.version).2 := by
  intro key
  by_cases hkey : key = a.key
  · rw [hkey, version?_receive_direct, h, greatest?_concat_self]
  · rw [version?_receive_of_ne .direct v a.version hkey, h,
      greatest?_concat_of_ne hkey]

theorem Tracks.receiveAll {past : List Announcement} {v : Versions} (h : Tracks past v)
    (l : List Announcement) : Tracks (past ++ l) (receiveAll .direct v l).2 := by
  induction l generalizing past v with
  | nil => rwa [List.append_nil]
  | cons a rest ih =>
    rw [List.append_cons]
    exact ih (h.receive a)

/-- What an event is received as, told by the announcements before it. -/
theorem Tracks.admission {past : List Announcement} {v : Versions} (h : Tracks past v)
    (a : Announcement) :
    let admission := (v.receive .direct a.key a.version).1
    (admission = .fresh ↔ a.key ∉ past.map (·.key)) ∧
      (admission = .updated ↔ a.key ∈ past.map (·.key) ∧
        ∀ b ∈ past, b.key = a.key → b.version < a.version) ∧
      (admission = .repeated ↔ ∃ b ∈ past, b.key = a.key ∧ a.version ≤ b.version) := by
  rcases receive_cases .direct v a.key a.version with
    ⟨hnone, hr⟩ | ⟨stored, hstored, hr⟩
  · -- no version is stored, so the event was never announced
    have new : a.key ∉ past.map (·.key) :=
      greatest?_eq_none_iff.mp (h a.key ▸ hnone)
    have never : ∀ b ∈ past, b.key ≠ a.key := fun b hb hkey =>
      new (hkey ▸ List.mem_map_of_mem hb)
    simp only [hr, reduceCtorEq, true_iff, false_iff]
    exact ⟨new, fun h => new h.1, fun ⟨b, hb, hkey, _⟩ => never b hb hkey⟩
  · -- the version stored is the greatest of the event, and some announcement had it
    obtain ⟨⟨c, hc, hkey, rfl⟩, most⟩ :=
      greatest?_eq_some_iff.mp (h a.key ▸ hstored)
    have known : a.key ∈ past.map (·.key) := hkey ▸ List.mem_map_of_mem hc
    rcases hr with ⟨newer, hr⟩ | ⟨old, hr⟩
    · rw [supersedes_direct] at newer
      have above : ∀ b ∈ past, b.key = a.key → b.version < a.version := fun b hb hb' =>
        Int.lt_of_le_of_lt (most b hb hb') newer
      simp only [hr, reduceCtorEq, true_iff, false_iff, Decidable.not_not]
      exact ⟨known, ⟨known, above⟩, fun ⟨b, hb, hb', hle⟩ =>
        Int.not_lt.mpr hle (above b hb hb')⟩
    · rw [← Bool.not_eq_true, supersedes_direct, Int.not_lt] at old
      simp only [hr, reduceCtorEq, true_iff, false_iff, Decidable.not_not]
      exact ⟨known, fun ⟨_, above⟩ => Int.not_lt.mpr old (above c hc hkey), c, hc, hkey, old⟩

theorem mem_entries_iff {v : Versions} (h : v.keys.Nodup) {key : EventKey} {n : Int} :
    (key, n) ∈ v.entries ↔ v.version? key = some n := by
  rw [version?, List.lookup_eq_some_iff]
  constructor
  · intro hmem
    obtain ⟨before, after, hsplit⟩ := List.append_of_mem hmem
    refine ⟨before, after, hsplit, fun entry hentry => bne_iff_ne.mpr ?_⟩
    rw [keys, hsplit, List.map_append, List.nodup_append] at h
    exact (h.2.2 entry.1 (List.mem_map_of_mem hentry) key (by simp)).symm
  · rintro ⟨before, after, hsplit, -⟩
    rw [hsplit]
    exact List.mem_append_right _ List.mem_cons_self

/-- Stores that give every event the same version have the same entries. -/
theorem entries_perm {v w : Versions} (hv : v.keys.Nodup) (hw : w.keys.Nodup)
    (h : ∀ key, v.version? key = w.version? key) : v.entries.Perm w.entries := by
  refine (List.perm_ext_iff_of_nodup (List.Nodup.of_map _ hv) (List.Nodup.of_map _ hw)).mpr ?_
  rintro ⟨key, n⟩
  rw [mem_entries_iff hv, mem_entries_iff hw, h]

theorem Tracks.size_eq {past : List Announcement} {v : Versions} (h : Tracks past v)
    (nodup : v.keys.Nodup) : v.size = (past.map (·.key)).dedup.length := by
  rw [← length_keys]
  refine ((List.perm_ext_iff_of_nodup nodup (List.nodup_dedup _)).mpr fun key => ?_).length_eq
  rw [List.mem_dedup, ← not_iff_not, ← version?_eq_none_iff, h, greatest?_eq_none_iff]

/-- Announcements received in turn by the direct policy. The version stored for an event is the
greatest announced, and there is one for each event. An event is new when it is announced first,
updated when its version is above all before it, and repeated otherwise. In another order the
announcements come to the same versions. -/
theorem receiveAll_direct (l : List Announcement) :
    let received := receiveAll .direct .empty l
    (∀ key, received.2.version? key = greatest? key l) ∧
      received.2.size = (l.map (·.key)).dedup.length ∧
      (∀ before a after, l = before ++ a :: after →
        ∃ admission, received.1[before.length]? = some admission ∧
          (admission = .fresh ↔ a.key ∉ before.map (·.key)) ∧
          (admission = .updated ↔ a.key ∈ before.map (·.key) ∧
            ∀ b ∈ before, b.key = a.key → b.version < a.version) ∧
          (admission = .repeated ↔ ∃ b ∈ before, b.key = a.key ∧ a.version ≤ b.version)) ∧
      ∀ l' : List Announcement, l.Perm l' →
        let reordered := receiveAll .direct .empty l'
        (∀ key, reordered.2.version? key = received.2.version? key) ∧
          reordered.2.entries.Perm received.2.entries := by
  have htracks (l : List Announcement) : Tracks l (receiveAll .direct .empty l).2 :=
    tracks_empty.receiveAll l
  have hnodup (l : List Announcement) : (receiveAll .direct .empty l).2.keys.Nodup :=
    nodup_keys_receiveAll .direct (show empty.keys.Nodup from List.nodup_nil) l
  refine ⟨htracks l, (htracks l).size_eq (hnodup l), ?_, ?_⟩
  · rintro before a after rfl
    exact ⟨_, getElem?_receiveAll .direct .empty before a after, (htracks before).admission a⟩
  · intro l' reorder
    have hsame : ∀ key, (receiveAll .direct .empty l').2.version? key =
        (receiveAll .direct .empty l).2.version? key := fun key => by
      rw [htracks l', htracks l, greatest?_congr fun a => reorder.mem_iff]
    exact ⟨hsame, entries_perm (hnodup l') (hnodup l) hsame⟩

end Versions

end BroadcastGuide
