import BroadcastGuide.Grabber

/-! Counting has no say in a run. With more on its counters to start from a run does the same, and
ends with as much more on them. -/

namespace BroadcastGuide

open Calendar (Instant)

namespace Counters

/-- Counters that are greater by others. -/
def plus (c d : Counters) : Counters where
  packets := c.packets + d.packets
  programmes := c.programmes + d.programmes
  updates := c.updates + d.updates
  repeats := c.repeats + d.repeats
  invalidDates := c.invalidDates + d.invalidDates
  crcErrors := c.crcErrors + d.crcErrors
  missingTitles := c.missingTitles + d.missingTitles
  unknownDescriptors := c.unknownDescriptors + d.unknownDescriptors
  decodeErrors := c.decodeErrors + d.decodeErrors
  textWarnings := c.textWarnings + d.textWarnings
  filtered := c.filtered + d.filtered

theorem plus_zero (c : Counters) : c.plus zero = c := by
  simp [plus, zero]

theorem zero_plus (c : Counters) : zero.plus c = c := by
  simp [plus, zero]

theorem plus_assoc (c d e : Counters) : (c.plus d).plus e = c.plus (d.plus e) := by
  simp [plus, Int.add_assoc]

end Counters

namespace DecoderState

variable (s : DecoderState) (d : Counters)

def plus : DecoderState := s.count (·.plus d)

@[simp] theorem versions_plus : (s.plus d).versions = s.versions := rfl

theorem count_plus {f : Counters → Counters} (h : ∀ c, f (c.plus d) = (f c).plus d) :
    (s.plus d).count f = (s.count f).plus d :=
  congrArg (DecoderState.mk · s.versions) (h s.counters)

/-- A state is one in which nothing is counted, with its counters on top. -/
theorem eq_plus : s = (⟨.zero, s.versions⟩ : DecoderState).plus s.counters := by
  simp [plus, count, Counters.zero_plus]

end DecoderState

def Decoded.plus {α : Type} (decoded : Decoded α) (d : Counters) : Decoded α :=
  { decoded with state := decoded.state.plus d }

namespace Decoder

variable (settings : Settings) (now : Instant) (info : EventSection) (state : DecoderState)
  (d : Counters)

theorem fill_plus (loop : Octets) (p : Programme) :
    fill settings (state.plus d) loop p = (fill settings state loop p).plus d := by
  unfold fill
  cases DescriptorLoop.ofBytes loop with
  | error e =>
    simp [Decoded.plus, DecoderState.plus, DecoderState.count, Counters.plus, Int.add_right_comm]
  | ok read =>
    dsimp only
    split
    · simp [Decoded.plus, DecoderState.plus, DecoderState.count, Counters.plus,
        Int.add_right_comm]
    · split <;>
        simp [Decoded.plus, DecoderState.plus, DecoderState.count, Counters.plus,
          Int.add_right_comm]

theorem admitted_plus (r : EventRecord) (isUpdate : Bool) :
    admitted settings now info (state.plus d) r isUpdate =
      (admitted settings now info state r isUpdate).plus d := by
  have hinvalid : (state.plus d).count (fun c => { c with invalidDates := c.invalidDates + 1 }) =
      (state.count fun c => { c with invalidDates := c.invalidDates + 1 }).plus d :=
    state.count_plus d fun c => by simp [Counters.plus, Int.add_right_comm]
  unfold admitted
  dsimp only
  rw [hinvalid]
  split
  · rfl
  · rfl
  · split
    · rfl
    · split
      · rfl
      · rw [← apply_ite (DecoderState.plus · d), fill_plus]

theorem record_plus (r : EventRecord) :
    record settings now info (state.plus d) r = (record settings now info state r).plus d := by
  unfold record
  dsimp only [DecoderState.versions_plus]
  obtain ⟨admission, v⟩ := state.versions.receive settings.versionPolicy
    ⟨info.serviceId, r.eventId⟩ info.version
  -- the event is received before anything is counted, so both sides go on from one state
  let received : DecoderState := { state with versions := v }
  have hreceived : { state.plus d with versions := v } = received.plus d := rfl
  rw [hreceived]
  cases admission with
  | fresh => exact admitted_plus settings now info received d r false
  | repeated =>
    dsimp only
    rw [received.count_plus d fun c => by simp [Counters.plus, Int.add_right_comm]]
    rfl
  | updated =>
    dsimp only
    rw [received.count_plus d fun c => by simp [Counters.plus, Int.add_right_comm]]
    split
    · exact admitted_plus settings now info _ d r true
    · rfl

theorem records_plus (rs : List EventRecord) :
    records settings now info (state.plus d) rs =
      (records settings now info state rs).plus d := by
  induction rs generalizing state with
  | nil => rfl
  | cons r rest ih =>
    unfold records
    dsimp only
    rw [record_plus]
    cases hr : (record settings now info state r).result with
    | error e => simp only [Decoded.plus, hr]
    | ok p =>
      simp only [Decoded.plus, hr, ih]
      cases (records settings now info (record settings now info state r).state rest).result <;> rfl

theorem decode_plus :
    decode settings now (state.plus d) info = (decode settings now state info).plus d := by
  unfold decode
  dsimp only
  rw [records_plus]
  generalize records settings now info state info.events.records = decoded
  obtain ⟨after, result⟩ := decoded
  dsimp only [Decoded.plus]
  split
  · rw [after.count_plus d fun c => by simp [Counters.plus, Int.add_right_comm]]
  · rfl

/-- Only the versions bear on what decoding gives and on the versions known afterwards. -/
theorem decode_congr {s t : DecoderState} (h : s.versions = t.versions) :
    (decode settings now s info).result = (decode settings now t info).result ∧
      (decode settings now s info).state.versions =
        (decode settings now t info).state.versions := by
  rw [s.eq_plus, t.eq_plus, decode_plus, decode_plus, h]
  exact ⟨rfl, rfl⟩

end Decoder

def GrabState.plus (s : GrabState) (d : Counters) (touches : Nat) : GrabState :=
  ⟨s.decoder.plus d, s.touches + touches⟩

namespace GrabState

variable (s : GrabState) (d : Counters) (touches : Nat)

theorem plus_zero : s.plus .zero 0 = s := by
  rw [plus, DecoderState.plus, DecoderState.count, Counters.plus_zero, Nat.add_zero]

theorem plus_plus (e : Counters) (more : Nat) :
    (s.plus d touches).plus e more = s.plus (d.plus e) (touches + more) := by
  simp only [plus, DecoderState.plus, DecoderState.count, Counters.plus_assoc, Nat.add_assoc]

theorem count_plus {f : Counters → Counters} (h : ∀ c, f (c.plus d) = (f c).plus d) :
    (s.plus d touches).count f = (s.count f).plus d touches :=
  congrArg (GrabState.mk · (s.touches + touches)) (s.decoder.count_plus d h)

end GrabState

theorem Grabber.decodeRaw_plus (settings : Settings) (now : Instant) (state : GrabState)
    (d : Counters) (touches : Nat) (raw : RawSection) :
    decodeRaw settings now (state.plus d touches) raw =
      ((decodeRaw settings now state raw).1.plus d touches,
        (decodeRaw settings now state raw).2) := by
  unfold decodeRaw
  split
  · rw [state.count_plus d touches fun c => by simp [Counters.plus, Int.add_right_comm]]
  · split
    · rw [state.count_plus d touches fun c => by simp [Counters.plus, Int.add_right_comm]]
    · rename_i info _
      dsimp only [GrabState.plus]
      rw [Decoder.decode_plus]
      rfl

end BroadcastGuide
