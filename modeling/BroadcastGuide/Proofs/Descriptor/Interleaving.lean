import BroadcastGuide.Descriptor.Projection

/-! Descriptors of different groups may stand in any order among each other: what a programme is
filled with depends on the order inside each group only. -/

namespace BroadcastGuide

/-- Descriptors that are read for the same part of a programme. Private data specifiers are in one
group with the untyped descriptors, whose owners they name. -/
inductive DescriptorGroup
  | shortEvents
  | fragments
  | content
  | video
  | audio
  | teletext
  | ratings
  | references
  | owned
  deriving DecidableEq, Repr

namespace Descriptor

/-- The group of a descriptor. Components of other streams are in none. -/
def group? : Descriptor → Option DescriptorGroup
  | shortEvent _ => some .shortEvents
  | extendedEvent _ => some .fragments
  | component c =>
    if c.streamContent = Projection.video then some .video
    else if c.streamContent = Projection.audio then some .audio
    else if c.streamContent = Projection.teletext then some .teletext
    else none
  | content _ => some .content
  | parentalRating _ => some .ratings
  | privateDataSpecifier _ => some .owned
  | contentIdentifier _ => some .references
  | other _ _ => some .owned

def componentOf? (content : Nat) : Descriptor → Option Component
  | component c => if c.streamContent = content then some c else none
  | _ => none

end Descriptor

namespace DescriptorGroup

variable {α : Type} {g : DescriptorGroup}

def members (g : DescriptorGroup) (ds : List Descriptor) : List Descriptor :=
  ds.filter fun d => d.group? = some g

theorem members_cons_of_mem {d : Descriptor} (h : d.group? = some g) (ds : List Descriptor) :
    g.members (d :: ds) = d :: g.members ds := by simp [members, h]

theorem members_cons_of_not_mem {d : Descriptor} (h : d.group? ≠ some g) (ds : List Descriptor) :
    g.members (d :: ds) = g.members ds := by simp [members, h]

/-- What `read` finds in a list it finds in the members of the group alone. -/
def Suffices (g : DescriptorGroup) (read : List Descriptor → α) : Prop :=
  ∀ ds, read (g.members ds) = read ds

theorem Suffices.flatMap {f : Descriptor → List α} (h : ∀ d, d.group? ≠ some g → f d = []) :
    g.Suffices fun ds => ds.flatMap f := by
  intro ds
  induction ds with
  | nil => rfl
  | cons d ds ih =>
    by_cases hd : d.group? = some g
    · simp only [members_cons_of_mem hd, List.flatMap_cons, ih]
    · simp only [members_cons_of_not_mem hd, List.flatMap_cons, h d hd, List.nil_append, ih]

theorem Suffices.filterMap {f : Descriptor → Option α} (h : ∀ d, d.group? ≠ some g → f d = none) :
    g.Suffices fun ds => ds.filterMap f := by
  intro ds
  induction ds with
  | nil => rfl
  | cons d ds ih =>
    by_cases hd : d.group? = some g
    · simp only [members_cons_of_mem hd, List.filterMap_cons, ih]
    · simp only [members_cons_of_not_mem hd, List.filterMap_cons, h d hd, ih]

end DescriptorGroup

namespace Projection

open DescriptorGroup Text

theorem suffices_shortEvents : DescriptorGroup.shortEvents.Suffices shortEvents := by
  apply Suffices.filterMap
  intro d hd
  cases d <;> simp_all [Descriptor.group?]

theorem suffices_fragments : fragments.Suffices extendedEvents := by
  apply Suffices.filterMap
  intro d hd
  cases d <;> simp_all [Descriptor.group?]

theorem suffices_content : content.Suffices contentCodes := by
  apply Suffices.flatMap
  intro d hd
  cases d <;> simp_all [Descriptor.group?]

theorem suffices_ratings : DescriptorGroup.ratings.Suffices ratingCodes := by
  apply Suffices.flatMap
  intro d hd
  cases d <;> simp_all [Descriptor.group?]

theorem suffices_references : references.Suffices cridEntries := by
  apply Suffices.flatMap
  intro d hd
  cases d <;> simp_all [Descriptor.group?]

theorem componentsOf_eq (content : Nat) (ds : List Descriptor) :
    componentsOf content ds = ds.filterMap (Descriptor.componentOf? content) := by
  rw [componentsOf, components, List.filter_filterMap]
  congr 1
  funext d
  cases d <;> simp [Descriptor.componentOf?, Option.filter]

/-- Components of one kind of stream are a group if the others are not in it. -/
theorem suffices_componentsOf {g : DescriptorGroup} {content : Nat}
    (h : ∀ c : Component, c.streamContent = content → (Descriptor.component c).group? = some g) :
    g.Suffices (componentsOf content) := by
  rw [funext (componentsOf_eq content)]
  apply Suffices.filterMap
  intro d hd
  cases d with
  | component c => exact if_neg fun hc => hd (h c hc)
  | _ => rfl

theorem suffices_video : DescriptorGroup.video.Suffices (componentsOf video) :=
  suffices_componentsOf fun c hc => by simp [Descriptor.group?, hc]

theorem suffices_audio : DescriptorGroup.audio.Suffices (componentsOf audio) :=
  suffices_componentsOf fun c hc => by simp [Descriptor.group?, hc, audio, video]

theorem suffices_teletext : DescriptorGroup.teletext.Suffices (componentsOf teletext) :=
  suffices_componentsOf fun c hc => by simp [Descriptor.group?, hc, audio, video, teletext]

/-- The specifier in force changes at members of the group only, so it is the same at each untyped
descriptor with the others left out. -/
theorem suffices_owned (specifier : Nat) : owned.Suffices (unknowns specifier) := by
  intro ds
  induction ds generalizing specifier with
  | nil => rfl
  | cons d ds ih =>
    by_cases hd : d.group? = some owned
    · rw [members_cons_of_mem hd]
      cases d with
      | privateDataSpecifier value => exact ih value
      | other tag payload => simp only [unknowns, ih specifier]
      | component c => grind [Descriptor.group?]
      | _ => simp [Descriptor.group?] at hd
    · rw [members_cons_of_not_mem hd, ih specifier]
      cases d <;> simp_all [Descriptor.group?, unknowns]

end Projection

/-- The descriptors of each group stand in the same order in both lists; the groups themselves may
be interleaved in any way. -/
def SameByGroup (ds ds' : List Descriptor) : Prop :=
  ∀ g : DescriptorGroup, g.members ds = g.members ds'

theorem SameByGroup.read_eq {α : Type} {ds ds' : List Descriptor} (h : SameByGroup ds ds')
    {g : DescriptorGroup} {read : List Descriptor → α} (hg : g.Suffices read) :
    read ds = read ds' := by
  calc read ds = read (g.members ds) := (hg ds).symm
    _ = read (g.members ds') := by rw [h g]
    _ = read ds' := hg ds'

namespace Projection

open Text (CharacterTable)

def interleaved : List Descriptor :=
  [.extendedEvent ⟨0, 1, "en", [], [0x41], true⟩, .privateDataSpecifier 5,
    .component ⟨audio, 3, 1, "de", []⟩, .shortEvent ⟨"en", [0x4E], [0x54, 0x07]⟩,
    .other 0x91 [1, 2], .content [⟨0x10, 0⟩], .component ⟨video, 3, 0, "en", []⟩, .other 0x81 [1],
    .extendedEvent ⟨1, 1, "en", [], [0x42], true⟩, .privateDataSpecifier 0,
    .component ⟨audio, 1, 2, "fr", []⟩, .shortEvent ⟨"de", [0x46], []⟩, .other 0x81 [],
    .parentalRating [⟨"DEU", 9⟩], .contentIdentifier [⟨1, .carried [0x2F]⟩]]

def grouped : List Descriptor :=
  [.privateDataSpecifier 5, .other 0x91 [1, 2], .other 0x81 [1], .privateDataSpecifier 0,
    .other 0x81 [], .contentIdentifier [⟨1, .carried [0x2F]⟩], .parentalRating [⟨"DEU", 9⟩],
    .component ⟨audio, 3, 1, "de", []⟩, .component ⟨audio, 1, 2, "fr", []⟩,
    .component ⟨video, 3, 0, "en", []⟩, .content [⟨0x10, 0⟩],
    .extendedEvent ⟨0, 1, "en", [], [0x41], true⟩, .extendedEvent ⟨1, 1, "en", [], [0x42], true⟩,
    .shortEvent ⟨"en", [0x4E], [0x54, 0x07]⟩, .shortEvent ⟨"de", [0x46], []⟩]

theorem sameByGroup_interleaved : SameByGroup interleaved grouped := by
  intro g
  cases g <;> rfl

/-- Inside the last group the order counts: a specifier owns only what comes after it. -/
example : unknowns 0 [.other 0x81 [], .privateDataSpecifier 5] ≠
    unknowns 0 [.privateDataSpecifier 5, .other 0x81 []] := by decide

end Projection

end BroadcastGuide
