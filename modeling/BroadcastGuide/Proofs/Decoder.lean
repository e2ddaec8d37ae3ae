import BroadcastGuide.Decoder
import BroadcastGuide.Proofs.Descriptor.Escaped

/-! What decoding an event record can do, and what a record that gives a programme has gone
through. -/

namespace BroadcastGuide

open Calendar (Instant)

namespace Programme

/-- What tells a programme's event from all others. -/
def key (p : Programme) : EventKey := ⟨p.serviceId, p.eventId⟩

end Programme

namespace Decoder

variable {settings : Settings} {now : Instant} {info : EventSection} {r : EventRecord}
  {state : DecoderState}

def keyOf (info : EventSection) (r : EventRecord) : EventKey := ⟨info.serviceId, r.eventId⟩

/-! ### What filling can do -/

/-- Why the codec of the default encoding refuses a text of a loop, if it does. -/
def refusal (settings : Settings) (read : DescriptorLoop) : Option Text.CodecFault :=
  (settings.codec.tallyFields (Projection.fields read.descriptors)).2

/-- The state in which is counted what a loop holds, up to a text that the codec refuses. -/
def noted (settings : Settings) (state : DecoderState) (read : DescriptorLoop) : DecoderState :=
  let tally := (settings.codec.tallyFields (Projection.fields read.descriptors)).1
  let unknown := Projection.unknowns 0 (Projection.reached settings.codec read.descriptors)
  state.count fun c =>
    { c with
      decodeErrors := c.decodeErrors + read.dropped.length + tally.errors
      textWarnings := c.textWarnings + tally.warnings
      unknownDescriptors := c.unknownDescriptors + unknown.length }

/-- A loop that breaks off is counted as an error. Of another one it is counted what it holds, and
the programme filled from it, if no text is refused and it has a title. -/
theorem fill_cases (settings : Settings) (state : DecoderState) (loop : Octets) (p : Programme) :
    let after := fill settings state loop p
    (∃ e, DescriptorLoop.ofBytes loop = .error e ∧
        after =
          ⟨state.count fun c => { c with decodeErrors := c.decodeErrors + 1 }, .ok none⟩) ∨
      ∃ read, DescriptorLoop.ofBytes loop = .ok read ∧
        let counted := noted settings state read
        let filled := (Projection.project settings.table read.descriptors p).value
        (∃ fault, refusal settings read = some fault ∧
            after = ⟨counted, .error (.refused fault)⟩) ∨
          refusal settings read = none ∧ filled.titles = [] ∧
            after =
              ⟨counted.count fun c => { c with missingTitles := c.missingTitles + 1 }, .ok none⟩ ∨
          refusal settings read = none ∧ filled.titles ≠ [] ∧
            after = ⟨counted.count fun c => { c with programmes := c.programmes + 1 },
              .ok (some filled)⟩ := by
  unfold fill
  cases DescriptorLoop.ofBytes loop with
  | error e => exact Or.inl ⟨e, rfl, rfl⟩
  | ok read =>
    refine Or.inr ⟨read, rfl, ?_⟩
    simp only [refusal]
    cases (settings.codec.tallyFields (Projection.fields read.descriptors)).2 with
    | some fault => exact Or.inl ⟨fault, rfl, rfl⟩
    | none =>
      dsimp only
      split
      · rename_i untitled
        exact Or.inr (Or.inl ⟨rfl, List.isEmpty_iff.mp untitled, rfl⟩)
      · rename_i titled
        exact Or.inr (Or.inr ⟨rfl, fun hnil => titled (List.isEmpty_iff.mpr hnil), rfl⟩)

theorem versions_fill (loop : Octets) (p : Programme) :
    (fill settings state loop p).state.versions = state.versions := by
  rcases fill_cases settings state loop p with
    ⟨e, -, h⟩ | ⟨read, -, ⟨fault, -, h⟩ | ⟨-, -, h⟩ | ⟨-, -, h⟩⟩ <;> rw [h] <;> rfl

/-! ### What one record can do -/

def isDated (settings : Settings) (now : Instant) (r : EventRecord) : Bool :=
  match times settings r with
  | .ok (some (_, stop)) =>
    match settings.inWindow now stop with
    | .ok inside => inside || settings.includeInvalidDates
    | .error _ => false
  | _ => false

def undated (state : DecoderState) : DecoderState :=
  state.count fun c => { c with invalidDates := c.invalidDates + 1 }

/-- The calendar ends at an admitted record, or its dates are counted as invalid, or it is filled,
even with invalid dates if such are wanted. -/
theorem admitted_cases (settings : Settings) (now : Instant) (info : EventSection)
    (state : DecoderState) (r : EventRecord) (isUpdate : Bool) :
    let after := admitted settings now info state r isUpdate
    isDated settings now r = false ∧
        (after = ⟨state, .error .outOfCalendar⟩ ∨ after = ⟨undated state, .ok none⟩) ∨
      isDated settings now r = true ∧ ∃ start stop inside,
        times settings r = .ok (some (start, stop)) ∧
        settings.inWindow now stop = .ok inside ∧
        (inside = true ∨ settings.includeInvalidDates = true) ∧
        after = fill settings (if inside then state else undated state) r.descriptors
          (outline info r start stop isUpdate) := by
  unfold admitted isDated
  dsimp only
  cases times settings r with
  | error e => exact Or.inl ⟨rfl, Or.inl rfl⟩
  | ok times? =>
    rcases times? with _ | ⟨start, stop⟩
    · exact Or.inl ⟨rfl, Or.inr rfl⟩
    · dsimp only
      cases hinside : settings.inWindow now stop with
      | error e => exact Or.inl ⟨rfl, Or.inl rfl⟩
      | ok inside =>
        cases inside with
        | true => exact Or.inr ⟨rfl, start, stop, true, rfl, hinside, Or.inl rfl, rfl⟩
        | false =>
          cases hwanted : settings.includeInvalidDates with
          | false => exact Or.inl ⟨rfl, Or.inr rfl⟩
          | true => exact Or.inr ⟨rfl, start, stop, false, rfl, hinside, Or.inr rfl, rfl⟩

/-- A record is a repetition, or an update that nobody wants, or it is admitted. -/
theorem record_cases (settings : Settings) (now : Instant) (info : EventSection)
    (state : DecoderState) (r : EventRecord) :
    let receipt := state.versions.receive settings.versionPolicy (keyOf info r) info.version
    let received : DecoderState := { state with versions := receipt.2 }
    let updated := received.count fun c => { c with updates := c.updates + 1 }
    let after := record settings now info state r
    receipt.1 = .repeated ∧
        after = ⟨received.count fun c => { c with repeats := c.repeats + 1 }, .ok none⟩ ∨
      receipt.1 = .updated ∧ settings.emitUpdates = false ∧ after = ⟨updated, .ok none⟩ ∨
      receipt.1 = .updated ∧ settings.emitUpdates = true ∧
        after = admitted settings now info updated r true ∨
      receipt.1 = .fresh ∧ after = admitted settings now info received r false := by
  intro receipt received updated after
  have hafter : after = record settings now info state r := rfl
  unfold record at hafter
  dsimp only at hafter
  split at hafter
  · rename_i repeated
    exact Or.inl ⟨repeated, hafter⟩
  · rename_i fresh
    exact Or.inr (Or.inr (Or.inr ⟨fresh, hafter⟩))
  · rename_i newer
    cases hwanted : settings.emitUpdates with
    | false =>
      rw [hwanted] at hafter
      exact Or.inr (Or.inl ⟨newer, rfl, hafter⟩)
    | true =>
      rw [hwanted] at hafter
      exact Or.inr (Or.inr (Or.inl ⟨newer, rfl, hafter⟩))

theorem versions_admitted (isUpdate : Bool) :
    (admitted settings now info state r isUpdate).state.versions = state.versions := by
  rcases admitted_cases settings now info state r isUpdate with
    ⟨-, h | h⟩ | ⟨-, start, stop, inside, -, -, -, h⟩
  · rw [h]
  · rw [h]
    rfl
  · rw [h, versions_fill]
    cases inside <;> rfl

/-- Whatever becomes of a record, its event has been received. -/
theorem versions_record : (record settings now info state r).state.versions =
    (state.versions.receive settings.versionPolicy (keyOf info r) info.version).2 := by
  rcases record_cases settings now info state r with
    ⟨-, h⟩ | ⟨-, -, h⟩ | ⟨-, -, h⟩ | ⟨-, h⟩
  · rw [h]
    rfl
  · rw [h]
    rfl
  · rw [h, versions_admitted]
    rfl
  · rw [h, versions_admitted]

/-! ### A record that gives a programme -/

/-- A programme that was filled is what its descriptors say of the outline, and has a title. -/
theorem fill_eq_some {loop : Octets} {p q : Programme}
    (h : (fill settings state loop p).result = .ok (some q)) :
    ∃ read, DescriptorLoop.ofBytes loop = .ok read ∧
      q = (Projection.project settings.table read.descriptors p).value ∧ q.titles ≠ [] := by
  rcases fill_cases settings state loop p with
    ⟨e, -, hafter⟩ | ⟨read, hread, ⟨fault, -, hafter⟩ | ⟨-, -, hafter⟩ | ⟨-, titled, hafter⟩⟩
  · rw [hafter] at h
    cases h
  · rw [hafter] at h
    cases h
  · rw [hafter] at h
    cases h
  · rw [hafter] at h
    cases h
    exact ⟨read, hread, rfl, titled⟩

structure Gives (settings : Settings) (now : Instant) (info : EventSection) (r : EventRecord)
    (isUpdate : Bool) (p : Programme) : Prop where
  inside : ∃ inside, settings.inWindow now p.stop = .ok inside ∧
    (inside = true ∨ settings.includeInvalidDates = true)
  times : times settings r = .ok (some (p.start, p.stop))
  filled : ∃ read, DescriptorLoop.ofBytes r.descriptors = .ok read ∧
    p = (Projection.project settings.table read.descriptors
      (outline info r p.start p.stop isUpdate)).value
  titled : p.titles ≠ []

theorem admitted_eq_some {isUpdate : Bool} {p : Programme}
    (h : (admitted settings now info state r isUpdate).result = .ok (some p)) :
    Gives settings now info r isUpdate p := by
  rcases admitted_cases settings now info state r isUpdate with
    ⟨-, hafter | hafter⟩ | ⟨-, start, stop, inside, htimes, hinside, passes, hafter⟩
  · rw [hafter] at h
    cases h
  · rw [hafter] at h
    cases h
  · rw [hafter] at h
    obtain ⟨read, hread, rfl, titled⟩ := fill_eq_some h
    exact ⟨⟨inside, hinside, passes⟩, htimes, ⟨read, hread, rfl⟩, titled⟩

/-- A record gives a programme only if its event is new or updated, and an updated one only if
updates are wanted. -/
theorem record_eq_some {p : Programme}
    (h : (record settings now info state r).result = .ok (some p)) :
    ∃ isUpdate, Gives settings now info r isUpdate p ∧
      ((state.versions.receive settings.versionPolicy (keyOf info r) info.version).1 = .fresh ∧
          isUpdate = false ∨
        (state.versions.receive settings.versionPolicy (keyOf info r) info.version).1 = .updated ∧
          isUpdate = true ∧ settings.emitUpdates = true) := by
  rcases record_cases settings now info state r with
    ⟨-, hafter⟩ | ⟨-, -, hafter⟩ | ⟨updated, wanted, hafter⟩ | ⟨fresh, hafter⟩
  · rw [hafter] at h
    cases h
  · rw [hafter] at h
    cases h
  · rw [hafter] at h
    exact ⟨true, admitted_eq_some h, Or.inr ⟨updated, rfl, wanted⟩⟩
  · rw [hafter] at h
    exact ⟨false, admitted_eq_some h, Or.inl ⟨fresh, rfl⟩⟩

/-! ### The records of a section -/

/-- Decoding breaks off at the first of records in turn, or they leave the state that the others
leave, and give its programme ahead of theirs. -/
theorem records_cases (settings : Settings) (now : Instant) (info : EventSection)
    (state : DecoderState) (r : EventRecord) (rest : List EventRecord) :
    let first := record settings now info state r
    let others := records settings now info first.state rest
    let all := records settings now info state (r :: rest)
    (∃ e, first.result = .error e ∧ all = ⟨first.state, .error e⟩) ∨
      ∃ p?, first.result = .ok p? ∧ all.state = others.state ∧
        ∀ ps, all.result = .ok ps ↔
          ∃ later, others.result = .ok later ∧ ps = p?.toList ++ later := by
  simp only [records]
  cases (record settings now info state r).result with
  | error e => exact Or.inl ⟨e, rfl, rfl⟩
  | ok p? =>
    refine Or.inr ⟨p?, rfl, ?_⟩
    cases (records settings now info (record settings now info state r).state rest).result with
    | error e => simp
    | ok later => simp [eq_comm]

/-- A fault in the walk of a section costs none of the programmes ahead of it. -/
theorem result_decode : (decode settings now state info).result =
    (records settings now info state info.events.records).result := by
  unfold decode
  dsimp only
  split
  · rename_i hresult _
    exact hresult.symm
  · rfl

/-- A fault in the walk of a section is counted, and that is all. -/
theorem state_decode (settings : Settings) (now : Instant) (state : DecoderState)
    (info : EventSection) :
    let after := (records settings now info state info.events.records).state
    (decode settings now state info).state = after ∨
      (decode settings now state info).state =
        after.count fun c => { c with decodeErrors := c.decodeErrors + 1 } := by
  unfold decode
  dsimp only
  split
  · exact Or.inr rfl
  · exact Or.inl rfl

theorem versions_decode : (decode settings now state info).state.versions =
    (records settings now info state info.events.records).state.versions := by
  rcases state_decode settings now state info with h | h
  · rw [h]
  · rw [h]
    rfl

/-- A section that is decoded gives the programmes of its records, whether or not its walk broke
off. -/
theorem decode_eq_ok {ps : List Programme} (h : (decode settings now state info).result = .ok ps) :
    (records settings now info state info.events.records).result = .ok ps ∧
      (decode settings now state info).state.versions =
        (records settings now info state info.events.records).state.versions :=
  ⟨result_decode.symm.trans h, versions_decode⟩

namespace Gives

variable {isUpdate : Bool} {p : Programme}

theorem key_eq (h : Gives settings now info r isUpdate p) : p.key = keyOf info r := by
  obtain ⟨read, -, hp⟩ := h.filled
  rw [hp]
  rfl

theorem version_eq (h : Gives settings now info r isUpdate p) : p.version = info.version := by
  obtain ⟨read, -, hp⟩ := h.filled
  rw [hp]
  rfl

theorem isUpdate_eq (h : Gives settings now info r isUpdate p) : p.isUpdate = isUpdate := by
  obtain ⟨read, -, hp⟩ := h.filled
  rw [hp]
  rfl

/-- Every programme that decoding gives has its contents from descriptor bytes. -/
theorem isFilled (h : Gives settings now info r isUpdate p) : p.Filled := by
  obtain ⟨read, hread, hp⟩ := h.filled
  have hblank : (outline info r p.start p.stop isUpdate).Filled :=
    .blank info.serviceId r.eventId p.start p.stop info.version r.runningStatus r.freeCaMode
      isUpdate
  rw [hp]
  exact hblank.project settings.table hread

end Gives

end Decoder

end BroadcastGuide
