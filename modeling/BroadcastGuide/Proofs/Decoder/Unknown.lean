import BroadcastGuide.Proofs.Outcomes

/-! Descriptors that nobody knows: which they are, by the owner in force at the place of each, and
that a programme and the counter of a run tell of the same ones. -/

namespace BroadcastGuide

open Calendar (Instant)
open Text (CharacterTable)

def Descriptor.specifier? : Descriptor → Option Nat
  | privateDataSpecifier value => some value
  | _ => none

def UnknownDescriptor.entry (d : UnknownDescriptor) : Int × Int := (d.tag.toNat, d.size)

namespace Projection

/-- The owner in force at a place: the last one that is named ahead of it, or else the first. -/
def ownerAt (first : Nat) (ds : List Descriptor) (i : Nat) : Nat :=
  ((ds.take i).filterMap Descriptor.specifier?).getLastD first

/-- What is unknown at a place: an untyped descriptor, unless its tag is known to say nothing or
known to be private to the owner in force. -/
def unknownAt (first : Nat) (ds : List Descriptor) (i : Nat) : Option UnknownDescriptor :=
  match ds[i]? with
  | some (.other tag payload) =>
    if tag ∈ ignoredTags ∨ Labels.isKnownPrivate tag.toNat (ownerAt first ds i) then none
    else some ⟨tag, payload.length, ownerAt first ds i⟩
  | _ => none

def unknownIn (ds : List Descriptor) : List UnknownDescriptor :=
  (List.range ds.length).filterMap (unknownAt 0 ds)

variable (first : Nat) (d : Descriptor) (ds : List Descriptor)

theorem ownerAt_succ (i : Nat) :
    ownerAt first (d :: ds) (i + 1) = ownerAt (d.specifier?.getD first) ds i := by
  rw [ownerAt, List.take_succ_cons, List.filterMap_cons]
  cases d.specifier? with
  | none => rfl
  | some owner => exact List.getLastD_cons

theorem unknownAt_succ (i : Nat) :
    unknownAt first (d :: ds) (i + 1) = unknownAt (d.specifier?.getD first) ds i := by
  rw [unknownAt, List.getElem?_cons_succ, ownerAt_succ, unknownAt]

theorem unknownAt_other (tag : UInt8) (payload : Octets) :
    unknownAt first (.other tag payload :: ds) 0 =
      if tag ∈ ignoredTags ∨ Labels.isKnownPrivate tag.toNat first then none
      else some ⟨tag, payload.length, first⟩ := rfl

theorem unknowns_cons :
    unknowns first (d :: ds) =
      (unknownAt first (d :: ds) 0).toList ++ unknowns (d.specifier?.getD first) ds := by
  cases d with
  | other tag payload =>
    rw [unknowns, unknownAt_other]
    simp only [Bool.or_eq_true, List.contains_iff_mem]
    by_cases h : tag ∈ ignoredTags ∨ Labels.isKnownPrivate tag.toNat first
    · rw [if_pos h, if_pos h]
      rfl
    · rw [if_neg h, if_neg h]
      rfl
  | _ => rfl

theorem unknowns_prefix {prior ds : List Descriptor} (h : prior <+: ds) :
    unknowns first prior <+: unknowns first ds := by
  induction prior generalizing first ds with
  | nil => exact List.nil_prefix
  | cons d prior ih =>
    obtain ⟨rest, rfl⟩ := h
    rw [List.cons_append, unknowns_cons, unknowns_cons first d (prior ++ rest)]
    exact (List.prefix_append_right_inj _).mpr (ih _ (List.prefix_append prior rest))

/-- The unknown descriptors are found place by place. -/
theorem unknowns_eq :
    unknowns first ds = (List.range ds.length).filterMap (unknownAt first ds) := by
  induction ds generalizing first with
  | nil => rfl
  | cons d ds ih =>
    have hsucc : (unknownAt first (d :: ds) ∘ Nat.succ) =
        unknownAt (d.specifier?.getD first) ds :=
      funext (unknownAt_succ first d ds)
    rw [unknowns_cons, ih, List.length_cons, List.range_succ_eq_map, List.filterMap_cons,
      List.filterMap_map, hsucc]
    cases unknownAt first (d :: ds) 0 <;> rfl

end Projection

namespace Decoder

open Projection (unknownIn unknowns unknowns_eq unknowns_prefix reached reached_eq project)

variable {settings : Settings}

/-- The descriptors of a loop; one that breaks off has none to read. -/
def descriptorsOf (loop : Octets) : List Descriptor :=
  match DescriptorLoop.ofBytes loop with
  | .ok read => read.descriptors
  | .error _ => []

/-- What is unknown at an event that the decoder fills. At one that it leaves out for its version
or its dates nothing is looked for. -/
def Visit.unknown (settings : Settings) (x : Visit) : List UnknownDescriptor :=
  if x.isAdmitted settings && isDated settings x.now x.record then
    unknownIn (descriptorsOf x.record.descriptors)
  else []

/-- What is reported unknown at an event: all that is, but for what stands behind a title that the
codec refuses. -/
def Visit.reported (settings : Settings) (x : Visit) : List UnknownDescriptor :=
  if x.isAdmitted settings && isDated settings x.now x.record then
    unknownIn (reached settings.codec (descriptorsOf x.record.descriptors))
  else []

/-! ### Unknown descriptors of one record -/

/-- Filling counts what is reported. All that is unknown is reported unless decoding breaks off, and
stands in the programme. -/
theorem fill_unknown (settings : Settings) (state : DecoderState) (loop : Octets) (p : Programme) :
    let filled := fill settings state loop p
    let reported := unknownIn (reached settings.codec (descriptorsOf loop))
    filled.state.counters.unknownDescriptors =
        state.counters.unknownDescriptors + reported.length ∧
      ∀ q?, filled.result = .ok q? → reported = unknownIn (descriptorsOf loop) ∧
        ∀ q, q? = some q →
          q.unknownDescriptors = p.unknownDescriptors ++ reported.map (·.entry) := by
  intro filled reported
  rcases fill_cases settings state loop p with ⟨e, hread, h⟩ | ⟨read, hread, hcases⟩
  · have hnone : descriptorsOf loop = [] := by simp only [descriptorsOf, hread]
    have hreported : reported = [] := by
      simp only [reported, hnone]
      rfl
    simp only [filled, h, hreported, hnone]
    refine ⟨(Int.add_zero _).symm, fun q? hq => ⟨rfl, fun q hsome => ?_⟩⟩
    cases hq
    cases hsome
  · have hall : descriptorsOf loop = read.descriptors := by simp only [descriptorsOf, hread]
    have hreported : reported = unknowns 0 (reached settings.codec read.descriptors) := by
      rw [unknowns_eq, ← unknownIn, ← hall]
    have hcount : (noted settings state read).counters.unknownDescriptors =
        state.counters.unknownDescriptors + reported.length := by
      rw [hreported]
      rfl
    have htaken (h : refusal settings read = none) :
        reported = unknowns 0 read.descriptors ∧ reported = unknownIn (descriptorsOf loop) := by
      rw [hreported, reached_eq h, hall, unknowns_eq, unknownIn]
      exact ⟨rfl, rfl⟩
    rcases hcases with ⟨fault, -, h⟩ | ⟨taken, -, h⟩ | ⟨taken, -, h⟩
    · simp only [filled, h]
      refine ⟨hcount, fun q? hq => ?_⟩
      cases hq
    · -- without a title the unknown descriptors are counted all the same
      simp only [filled, h]
      refine ⟨hcount, fun q? hq => ⟨(htaken taken).2, fun q hsome => ?_⟩⟩
      cases hq
      cases hsome
    · simp only [filled, h]
      refine ⟨hcount, fun q? hq => ⟨(htaken taken).2, fun q hsome => ?_⟩⟩
      cases hq
      cases hsome
      rw [(htaken taken).1]
      rfl

theorem admitted_unknown (settings : Settings) (now : Instant) (info : EventSection)
    (state : DecoderState) (r : EventRecord) (isUpdate : Bool) :
    let after := admitted settings now info state r isUpdate
    let loop := descriptorsOf r.descriptors
    let reported := if isDated settings now r then unknownIn (reached settings.codec loop) else []
    let unknown := if isDated settings now r then unknownIn loop else []
    after.state.counters.unknownDescriptors =
        state.counters.unknownDescriptors + reported.length ∧
      ∀ p?, after.result = .ok p? → reported = unknown ∧
        ∀ p, p? = some p → p.unknownDescriptors = unknown.map (·.entry) := by
  rcases admitted_cases settings now info state r isUpdate with
    ⟨hdated, h | h⟩ | ⟨hdated, start, stop, inside, -, -, -, h⟩
  · simp [h, hdated]
  · simp [h, hdated, undated, DecoderState.count]
  · obtain ⟨hcount, hfilled⟩ := fill_unknown settings (if inside then state else undated state)
      r.descriptors (outline info r start stop isUpdate)
    simp only [h, hdated, if_true]
    refine ⟨hcount.trans ?_, fun p? hp => ?_⟩
    · cases inside <;> rfl
    · obtain ⟨hall, hlisted⟩ := hfilled p? hp
      exact ⟨hall, fun p hsome => hall ▸ hlisted p hsome⟩

/-- A record adds what it reports to the counter, whatever becomes of it. It reports all its unknown
descriptors unless decoding breaks off, and the programme that it gives lists them. -/
theorem record_unknown (settings : Settings) (x : Visit) :
    (x.decoded settings).state.counters.unknownDescriptors =
        x.state.counters.unknownDescriptors + (x.reported settings).length ∧
      ∀ p?, (x.decoded settings).result = .ok p? → x.reported settings = x.unknown settings ∧
        ∀ p, p? = some p → p.unknownDescriptors = (x.unknown settings).map (·.entry) := by
  unfold Visit.unknown Visit.reported Visit.isAdmitted Visit.decoded
  rcases record_cases settings x.now x.info x.state x.record with
    ⟨hreceipt, h⟩ | ⟨hreceipt, wanted, h⟩ | ⟨hreceipt, wanted, h⟩ | ⟨hreceipt, h⟩
  · simp [h, hreceipt, DecoderState.count]
  · simp [h, hreceipt, wanted, DecoderState.count]
  · rw [h, hreceipt]
    simp only [wanted, Bool.true_and]
    exact admitted_unknown settings x.now x.info _ x.record true
  · rw [h, hreceipt]
    simp only [Bool.true_and]
    exact admitted_unknown settings x.now x.info _ x.record false

theorem reported_prefix (settings : Settings) (x : Visit) :
    x.reported settings <+: x.unknown settings := by
  unfold Visit.reported Visit.unknown
  split
  · rw [unknownIn, unknownIn, ← unknowns_eq, ← unknowns_eq]
    exact unknowns_prefix 0 (List.takeWhile_prefix _)
  · exact List.prefix_rfl

/-! ### Unknown descriptors of a run -/

theorem sum_map_length {α β : Type} (f : α → List β) (l : List α) :
    (l.map fun x => ((f x).length : Int)).sum = (l.flatMap f).length := by
  induction l with
  | nil => rfl
  | cons x l ih => simp [ih]

/-- News with two unknown descriptors of one tag, and between them one that is private to the owner
named ahead of it. -/
def ownedNews : EventRecord :=
  { newsRecord with
    descriptors :=
      newsRecord.descriptors ++ [0x99, 1, 7, 0x5F, 4, 0, 0, 0, 5, 0x81, 0, 0x99, 1, 7] }

/-- No title, and the private descriptor of an owner that nobody names. -/
def untitled : EventRecord := { newsRecord with eventId := 2, descriptors := [0x81, 0] }

end Decoder

end BroadcastGuide
