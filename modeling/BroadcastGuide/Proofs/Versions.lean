import BroadcastGuide.Versions

/-! What receiving events does to the versions stored. -/

namespace BroadcastGuide

/-- An event in one version, as a record announces it. -/
structure Announcement where
  key : EventKey
  version : Int
  deriving DecidableEq, Repr

namespace Versions

/-- An event is new, or takes the place of the version stored, or changes nothing. -/
theorem receive_cases (policy : VersionPolicy) (v : Versions) (key : EventKey) (n : Int) :
    (v.version? key = none ∧ v.receive policy key n = (.fresh, v.insert key n)) ∨
      ∃ stored, v.version? key = some stored ∧
        (policy.supersedes n stored = true ∧
            v.receive policy key n = (.updated, v.insert key n) ∨
          policy.supersedes n stored = false ∧ v.receive policy key n = (.repeated, v)) := by
  unfold receive
  cases hv : v.version? key with
  | none => exact Or.inl ⟨rfl, rfl⟩
  | some stored =>
    refine Or.inr ⟨stored, rfl, ?_⟩
    cases hs : policy.supersedes n stored with
    | true => exact Or.inl ⟨rfl, by simp only [hs, if_true]⟩
    | false => exact Or.inr ⟨rfl, by simp only [hs, Bool.false_eq_true, if_false]⟩

theorem supersedes_direct {incoming stored : Int} :
    VersionPolicy.direct.supersedes incoming stored = true ↔ stored < incoming :=
  decide_eq_true_iff

theorem version?_receive_direct (v : Versions) (key : EventKey) (n : Int) :
    (v.receive .direct key n).2.version? key = some ((v.version? key).elim n (max · n)) := by
  rcases receive_cases .direct v key n with
    ⟨hnone, h⟩ | ⟨stored, hstored, ⟨newer, h⟩ | ⟨old, h⟩⟩
  · rw [h, version?_insert_self, hnone]
    rfl
  · rw [supersedes_direct] at newer
    rw [h, version?_insert_self, hstored, Option.elim_some, Int.max_eq_right (Int.le_of_lt newer)]
  · rw [← Bool.not_eq_true, supersedes_direct, Int.not_lt] at old
    rw [h, hstored, Option.elim_some, Int.max_eq_left old]

theorem version?_receive_of_ne (policy : VersionPolicy) (v : Versions) {key other : EventKey}
    (n : Int) (h : other ≠ key) :
    (v.receive policy key n).2.version? other = v.version? other := by
  rcases receive_cases policy v key n with ⟨_, hr⟩ | ⟨_, _, ⟨_, hr⟩ | ⟨_, hr⟩⟩
  · rw [hr, version?_insert_of_ne v n h]
  · rw [hr, version?_insert_of_ne v n h]
  · rw [hr]

/-- An event that was received has a version stored, by the direct policy no older one. -/
theorem version?_receive_self (policy : VersionPolicy) (v : Versions) (key : EventKey) (n : Int) :
    ∃ m, (v.receive policy key n).2.version? key = some m ∧ (policy = .direct → n ≤ m) := by
  rcases receive_cases policy v key n with
    ⟨_, h⟩ | ⟨stored, hstored, ⟨_, h⟩ | ⟨hold, h⟩⟩
  · exact ⟨n, by rw [h, version?_insert_self], fun _ => Int.le_refl n⟩
  · exact ⟨n, by rw [h, version?_insert_self], fun _ => Int.le_refl n⟩
  · refine ⟨stored, by rw [h, hstored], ?_⟩
    rintro rfl
    rw [← Bool.not_eq_true, supersedes_direct] at hold
    omega

/-- Whatever else is received, a version stored stays or gives way, by the direct policy to a
greater one only. -/
theorem version?_receive {v : Versions} {other : EventKey} {stored : Int}
    (h : v.version? other = some stored) (policy : VersionPolicy) (key : EventKey) (n : Int) :
    ∃ m, (v.receive policy key n).2.version? other = some m ∧
      (policy = .direct → stored ≤ m) := by
  by_cases hkey : other = key
  · subst hkey
    rcases receive_cases policy v other n with
      ⟨hnone, _⟩ | ⟨stored', hstored, ⟨hnewer, hr⟩ | ⟨_, hr⟩⟩
    · exact absurd (hnone.symm.trans h) (by simp)
    · cases hstored.symm.trans h
      refine ⟨n, by rw [hr, version?_insert_self], ?_⟩
      rintro rfl
      exact Int.le_of_lt (supersedes_direct.mp hnewer)
    · exact ⟨stored, by rw [hr, h], fun _ => Int.le_refl stored⟩
  · exact ⟨stored, by rw [version?_receive_of_ne policy v n hkey, h], fun _ => Int.le_refl stored⟩

/-! ### The events that have a version stored -/

/-- The events that have a version stored, in the order in which they were first received. -/
def keys (v : Versions) : List EventKey := v.entries.map (·.1)

theorem length_keys (v : Versions) : v.keys.length = v.size := List.length_map _

theorem version?_eq_none_iff {v : Versions} {key : EventKey} :
    v.version? key = none ↔ key ∉ v.keys := by
  simp only [version?, keys, List.lookup_eq_none_iff, bne_iff_ne, List.mem_map, not_exists, not_and]
  exact ⟨fun h entry hentry he => h entry hentry he.symm, fun h entry hentry he =>
    h entry hentry he.symm⟩

theorem mem_keys_of_version? {v : Versions} {key : EventKey} {stored : Int}
    (h : v.version? key = some stored) : key ∈ v.keys :=
  Decidable.byContradiction fun hnot => by
    rw [version?_eq_none_iff.mpr hnot] at h
    cases h

theorem map_put (key : EventKey) (n : Int) (entries : List (EventKey × Int)) :
    (put key n entries).map (·.1) =
      if key ∈ entries.map (·.1) then entries.map (·.1) else entries.map (·.1) ++ [key] := by
  induction entries with
  | nil => rfl
  | cons entry rest ih =>
    unfold put
    by_cases h : entry.1 = key
    · simp [h]
    · have hne : key ≠ entry.1 := fun he => h he.symm
      rw [if_neg h, List.map_cons, List.map_cons, ih]
      simp only [List.mem_cons, hne, false_or, List.cons_append]
      split <;> rfl

theorem keys_insert (v : Versions) (key : EventKey) (n : Int) :
    (v.insert key n).keys = if key ∈ v.keys then v.keys else v.keys ++ [key] :=
  map_put key n v.entries

/-- A new event gets an entry, and no other does. -/
theorem keys_receive (policy : VersionPolicy) (v : Versions) (key : EventKey) (n : Int) :
    (v.receive policy key n).2.keys = if key ∈ v.keys then v.keys else v.keys ++ [key] := by
  rcases receive_cases policy v key n with ⟨_, h⟩ | ⟨stored, hstored, ⟨_, h⟩ | ⟨_, h⟩⟩
  · rw [h, keys_insert]
  · rw [h, keys_insert]
  · rw [h, if_pos (mem_keys_of_version? hstored)]

/-- A new event makes the store greater by one, and no other event does. -/
theorem size_receive (policy : VersionPolicy) (v : Versions) (key : EventKey) (n : Int) :
    (v.receive policy key n).2.size =
      v.size + if (v.receive policy key n).1 = .fresh then 1 else 0 := by
  rw [← length_keys, ← length_keys, keys_receive]
  rcases receive_cases policy v key n with ⟨hnone, h⟩ | ⟨stored, hstored, h⟩
  · rw [h, if_neg (version?_eq_none_iff.mp hnone), if_pos rfl, List.length_append]
    rfl
  · have hadmission : (v.receive policy key n).1 ≠ .fresh := by
      rcases h with ⟨_, h⟩ | ⟨_, h⟩ <;> simp [h]
    rw [if_pos (mem_keys_of_version? hstored), if_neg hadmission]
    rfl

/-! ### Events received in turn -/

/-- Receives events in turn: what each is received as, and the versions stored at the end. -/
def receiveAll (policy : VersionPolicy) (v : Versions) :
    List Announcement → List Admission × Versions
  | [] => ([], v)
  | a :: rest =>
    let first := v.receive policy a.key a.version
    let others := receiveAll policy first.2 rest
    (first.1 :: others.1, others.2)

theorem receiveAll_append (policy : VersionPolicy) (v : Versions) (l later : List Announcement) :
    receiveAll policy v (l ++ later) =
      ((receiveAll policy v l).1 ++ (receiveAll policy (receiveAll policy v l).2 later).1,
        (receiveAll policy (receiveAll policy v l).2 later).2) := by
  induction l generalizing v with
  | nil => rfl
  | cons a rest ih => simp only [List.cons_append, receiveAll, ih]

theorem length_receiveAll (policy : VersionPolicy) (v : Versions) (l : List Announcement) :
    (receiveAll policy v l).1.length = l.length := by
  induction l generalizing v with
  | nil => rfl
  | cons a rest ih => simp only [receiveAll, List.length_cons, ih]

/-- What an event is received as hangs on the events received before it. -/
theorem getElem?_receiveAll (policy : VersionPolicy) (v : Versions) (before : List Announcement)
    (a : Announcement) (after : List Announcement) :
    (receiveAll policy v (before ++ a :: after)).1[before.length]? =
      some ((receiveAll policy v before).2.receive policy a.key a.version).1 := by
  rw [receiveAll_append, ← length_receiveAll policy v before, List.getElem?_append_right
    (Nat.le_refl _), Nat.sub_self]
  rfl

theorem nodup_keys_receiveAll {v : Versions} (policy : VersionPolicy) (h : v.keys.Nodup)
    (l : List Announcement) : (receiveAll policy v l).2.keys.Nodup := by
  induction l generalizing v with
  | nil => exact h
  | cons a rest ih =>
    refine ih ?_
    rw [keys_receive]
    split
    · exact h
    · rename_i new
      refine List.nodup_append.mpr ⟨h, List.pairwise_singleton _ _, ?_⟩
      rintro key hkey _ hsame rfl
      exact new (List.mem_singleton.mp hsame ▸ hkey)

end Versions

end BroadcastGuide
