/-!
The version of each event seen last. A broadcast repeats its events without end, so an event counts
as new once, and again only when a newer version comes.
-/

namespace BroadcastGuide

inductive VersionPolicy
  /-- The greater number is newer. -/
  | direct
  /-- Numbers count modulo thirty-two; up to fifteen steps ahead is newer. -/
  | serial
  deriving DecidableEq, Repr

namespace VersionPolicy

def name : VersionPolicy → String
  | direct => "direct"
  | serial => "serial"

def named? (s : String) : Option VersionPolicy := [direct, serial].find? (·.name == s)

def supersedes (policy : VersionPolicy) (incoming stored : Int) : Bool :=
  match policy with
  | direct => stored < incoming
  | serial => 1 ≤ (incoming - stored) % 32 && (incoming - stored) % 32 ≤ 15

end VersionPolicy

structure EventKey where
  serviceId : Int
  eventId : Int
  deriving DecidableEq, Repr

inductive Admission
  | fresh
  | repeated
  | updated
  deriving DecidableEq, Repr

/-- The version of each event, one entry a key. -/
structure Versions where
  entries : List (EventKey × Int)
  deriving DecidableEq, Repr

namespace Versions

def empty : Versions := ⟨[]⟩

def size (v : Versions) : Nat := v.entries.length

def version? (v : Versions) (key : EventKey) : Option Int := v.entries.lookup key

/-- Stores a version in the place of the one stored, or at the end. -/
def put (key : EventKey) (version : Int) : List (EventKey × Int) → List (EventKey × Int)
  | [] => [(key, version)]
  | entry :: rest =>
    if entry.1 = key then (key, version) :: rest else entry :: put key version rest

def insert (v : Versions) (key : EventKey) (version : Int) : Versions :=
  ⟨put key version v.entries⟩

/-- Receives an event. The version is stored unless it is a repetition. -/
def receive (policy : VersionPolicy) (v : Versions) (key : EventKey) (version : Int) :
    Admission × Versions :=
  match v.version? key with
  | none => (.fresh, v.insert key version)
  | some stored =>
    if policy.supersedes version stored then (.updated, v.insert key version) else (.repeated, v)

theorem version?_insert_self (v : Versions) (key : EventKey) (n : Int) :
    (v.insert key n).version? key = some n := by
  unfold version? insert
  induction v.entries with
  | nil => simp [put]
  | cons entry rest ih =>
    unfold put
    split
    · simp
    · rename_i h
      obtain ⟨k, m⟩ := entry
      have hk : (key == k) = false := by
        simp only [beq_eq_false_iff_ne, ne_eq]
        exact fun he => h he.symm
      simpa [List.lookup_cons, hk] using ih

theorem version?_insert_of_ne (v : Versions) {key other : EventKey} (n : Int) (h : other ≠ key) :
    (v.insert key n).version? other = v.version? other := by
  unfold version? insert
  have hn : (other == key) = false := by simpa using h
  induction v.entries with
  | nil => simp [put, List.lookup_cons, hn]
  | cons entry rest ih =>
    obtain ⟨k, m⟩ := entry
    unfold put
    split
    · rename_i he
      simp only at he
      subst he
      simp [List.lookup_cons, hn]
    · simp only [List.lookup_cons]
      split
      · rfl
      · exact ih

end Versions

end BroadcastGuide
