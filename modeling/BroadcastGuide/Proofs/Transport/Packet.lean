import BroadcastGuide.Proofs.Failure
import BroadcastGuide.Transport.Packet

/-! Packets and their bytes. What a packet is built from is read back, and of all blocks with the
sync byte only those are refused of which the adaptation field runs past the end. -/

namespace BroadcastGuide.Transport.Packet

def signalsAdaptation (control : UInt8) : Bool := control.toNat.testBit 5

def signalsPayload (control : UInt8) : Bool := control.toNat.testBit 4

/-- What is left of the bytes behind a header after the adaptation field, if one is signalled. The
field is told by a byte with its length. -/
inductive Leaves (control : UInt8) : Octets → Octets → Prop
  | all {rest : Octets} (plain : signalsAdaptation control = false) : Leaves control rest rest
  | behind {length : UInt8} {field rest : Octets} (adapted : signalsAdaptation control = true)
      (size : field.length = length.toNat) : Leaves control (length :: (field ++ rest)) rest

/-- An adaptation field is signalled and is longer than the room behind its length byte. -/
inductive Overruns (control : UInt8) : Octets → Prop
  | intro {length : UInt8} {rest : Octets} (adapted : signalsAdaptation control = true)
      (long : 183 < length.toNat) : Overruns control (length :: rest)

theorem signalsAdaptation_eq (control : UInt8) :
    signalsAdaptation control = decide (2 ≤ control.toNat / 16 % 4) := by
  have hbit : control.toNat / 32 % 2 = control.toNat / 16 % 4 / 2 := by omega
  rw [signalsAdaptation, Nat.testBit_eq_decide_div_mod_eq, decide_eq_decide]
  change control.toNat / 32 % 2 = 1 ↔ _
  omega

theorem signalsPayload_eq (control : UInt8) :
    signalsPayload control = decide (control.toNat / 16 % 4 % 2 = 1) := by
  rw [signalsPayload, Nat.testBit_eq_decide_div_mod_eq, decide_eq_decide]
  change control.toNat / 16 % 2 = 1 ↔ _
  omega

def ofParts (b₁ b₂ control : UInt8) (rest : Octets) : Packet where
  pid := b₁.toNat % 32 * 256 + b₂.toNat
  payload := if signalsPayload control then rest else []
  hasError := b₁.toNat.testBit 7
  startsUnit := b₁.toNat.testBit 6
  scrambling := control.toNat / 64
  counter := control.toNat % 16
  hasAdaptation := signalsAdaptation control

section Block

variable {b₁ b₂ control : UInt8} {body : Octets} (whole : body.length = 184)

include whole

theorem ofBytes_block : ofBytes (syncByte :: b₁ :: b₂ :: control :: body) =
    let start := payloadStart (signalsAdaptation control) body
    if packetSize < start then .error (.adaptationOverrun start)
    else .ok (ofParts b₁ b₂ control (body.drop (start - 4))) := by
  have hsize : (syncByte :: b₁ :: b₂ :: control :: body).length = packetSize := by
    simp only [List.length_cons, whole]
    rfl
  have htake : (syncByte :: b₁ :: b₂ :: control :: body).take packetSize =
      syncByte :: b₁ :: b₂ :: control :: body := List.take_of_length_le (Nat.le_of_eq hsize)
  have hdrop : (syncByte :: b₁ :: b₂ :: control :: body).drop
      (payloadStart (signalsAdaptation control) body) =
        body.drop (payloadStart (signalsAdaptation control) body - 4) := by
    obtain ⟨n, hn⟩ : ∃ n, payloadStart (signalsAdaptation control) body = n + 4 := by
      unfold payloadStart
      split
      · exact ⟨_, Nat.add_comm 5 _⟩
      · exact ⟨0, rfl⟩
    rw [hn]
    rfl
  have herror : b₁.toNat.testBit 7 = decide (0x80 ≤ b₁.toNat) := by
    have hb := b₁.toNat_lt
    rw [Nat.testBit_eq_decide_div_mod_eq, decide_eq_decide]
    change b₁.toNat / 128 % 2 = 1 ↔ _
    omega
  have hunit : b₁.toNat.testBit 6 = decide (b₁.toNat / 64 % 2 = 1) :=
    Nat.testBit_eq_decide_div_mod_eq
  rw [ofBytes, if_neg (by omega)]
  dsimp only
  rw [if_neg (not_not_intro rfl), htake, ← signalsAdaptation_eq, hdrop, ofParts, herror, hunit,
    signalsPayload_eq]
  simp only [decide_eq_true_eq]

/-- A packet of which the adaptation field leaves a rest has that rest for its payload, if it
signals one. -/
theorem ofBytes_of_leaves {rest : Octets} (h : Leaves control body rest) :
    ofBytes (syncByte :: b₁ :: b₂ :: control :: body) = .ok (ofParts b₁ b₂ control rest) := by
  rw [ofBytes_block whole]
  cases h with
  | all plain => simp [plain, payloadStart, packetSize]
  | @behind length field _ adapted size =>
    have hlength : field.length + rest.length = 183 := by
      simpa only [List.length_cons, List.length_append, Nat.reduceEqDiff] using whole
    have hstart : payloadStart true (length :: (field ++ rest)) = field.length + 1 + 4 := by
      rw [size, payloadStart, if_pos rfl, List.headD_cons]
      omega
    have hfits : ¬ 188 < field.length + 1 + 4 := by omega
    simp only [adapted, hstart, packetSize, if_neg hfits, Nat.add_sub_cancel,
      List.drop_succ_cons, List.drop_left]

theorem ofBytes_of_overruns (h : Overruns control body) :
    ∃ position, ofBytes (syncByte :: b₁ :: b₂ :: control :: body) =
      .error (.adaptationOverrun position) := by
  rw [ofBytes_block whole]
  cases h with
  | @intro length rest adapted long =>
    have hstart : payloadStart true (length :: rest) = 5 + length.toNat := rfl
    have hpast : 188 < 5 + length.toNat := by omega
    exact ⟨5 + length.toNat, by simp only [adapted, hstart, packetSize, if_pos hpast]⟩

theorem leaves_or_overruns (control : UInt8) :
    (∃ rest, Leaves control body rest) ∨ Overruns control body := by
  cases hc : signalsAdaptation control with
  | false => exact Or.inl ⟨body, .all hc⟩
  | true =>
    obtain ⟨length, tail, rfl⟩ := List.exists_cons_of_length_pos (l := body) (by omega)
    rw [List.length_cons] at whole
    by_cases long : 183 < length.toNat
    · exact Or.inr (.intro hc long)
    · refine Or.inl ⟨tail.drop length.toNat, ?_⟩
      have hsize : (tail.take length.toNat).length = length.toNat := by
        rw [List.length_take]
        omega
      have hleaves : Leaves control
          (length :: (tail.take length.toNat ++ tail.drop length.toNat))
          (tail.drop length.toNat) := .behind hc hsize
      rwa [List.take_append_drop] at hleaves

end Block

def plain (pid counter : Nat) (payload : Octets) (startsUnit : Bool) : Packet where
  pid := pid
  payload := payload ++ List.replicate (184 - payload.length) 0xFF
  hasError := false
  startsUnit := startsUnit
  scrambling := 0
  counter := counter
  hasAdaptation := false

/-- The bytes of a packet that is built from numbers that fit. -/
theorem build_of_fits {pid counter : Nat} {payload : Octets} (startsUnit : Bool)
    (hpid : pid < 8192) (fits : payload.length ≤ 184) (hcounter : counter < 16) :
    build pid payload startsUnit counter =
      .ok (syncByte :: UInt8.ofNat (startsUnit.toNat * 64 + pid / 256) :: UInt8.ofNat (pid % 256) ::
        UInt8.ofNat (16 + counter) :: (payload ++ List.replicate (184 - payload.length) 0xFF)) := by
  have hhigh : ((pid : Int) / 256 % 32).toNat = pid / 256 := by omega
  have hlow : ((pid : Int) % 256).toNat = pid % 256 := by omega
  have hcount : ((counter : Int) % 16).toNat = counter := by omega
  have hroom : ¬ packetSize - 4 < payload.length := Nat.not_lt.mpr fits
  rw [build, if_neg hroom, hhigh, hlow, hcount]
  rfl

/-- The first byte behind the sync byte has the unit start over the high bits of the number. -/
theorem testBit_unitStart (startsUnit : Bool) {high : Nat} (h : high < 32) :
    (startsUnit.toNat * 64 + high).testBit 7 = false ∧
      (startsUnit.toNat * 64 + high).testBit 6 = startsUnit := by
  have hunit := startsUnit.toNat_le
  have hseventh : (startsUnit.toNat * 64 + high) / 128 % 2 = 0 := by omega
  have hsixth : (startsUnit.toNat * 64 + high) / 64 % 2 = startsUnit.toNat := by omega
  rw [Nat.testBit_eq_decide_div_mod_eq, Nat.testBit_eq_decide_div_mod_eq]
  change decide ((startsUnit.toNat * 64 + high) / 128 % 2 = 1) = false ∧
    decide ((startsUnit.toNat * 64 + high) / 64 % 2 = 1) = startsUnit
  rw [hseventh, hsixth]
  cases startsUnit <;> exact ⟨rfl, rfl⟩

/-- A packet that is built from numbers that fit is read as it was built. -/
theorem ofBytes_build {pid counter : Nat} {payload : Octets} (startsUnit : Bool)
    (hpid : pid < 8192) (fits : payload.length ≤ 184) (hcounter : counter < 16) :
    ∃ bytes, build pid payload startsUnit counter = .ok bytes ∧
      ofBytes bytes = .ok (plain pid counter payload startsUnit) := by
  have hunit := startsUnit.toNat_le
  have hb₁ := UInt8.toNat_ofNat_of_lt' (show startsUnit.toNat * 64 + pid / 256 < 256 by omega)
  have hb₂ := UInt8.toNat_ofNat_of_lt' (show pid % 256 < 256 by omega)
  have hb₃ := UInt8.toNat_ofNat_of_lt' (show 16 + counter < 256 by omega)
  have hplain : signalsAdaptation (UInt8.ofNat (16 + counter)) = false := by
    rw [signalsAdaptation_eq, hb₃, decide_eq_false_iff_not]
    omega
  have hpayload : signalsPayload (UInt8.ofNat (16 + counter)) = true := by
    rw [signalsPayload_eq, hb₃, decide_eq_true_eq]
    omega
  have hwhole : (payload ++ List.replicate (184 - payload.length) (0xFF : UInt8)).length = 184 := by
    rw [List.length_append, List.length_replicate]
    omega
  have hread : (startsUnit.toNat * 64 + pid / 256) % 32 * 256 + pid % 256 = pid := by omega
  have hscrambling : (16 + counter) / 64 = 0 := by omega
  have hcounted : (16 + counter) % 16 = counter := by omega
  obtain ⟨herror, hstarts⟩ := testBit_unitStart startsUnit (show pid / 256 < 32 by omega)
  refine ⟨_, build_of_fits startsUnit hpid fits hcounter, ?_⟩
  rw [ofBytes_of_leaves hwhole (.all hplain), ofParts, hplain, hpayload, hb₁, hb₂, hb₃, hread,
    herror, hstarts, hscrambling, hcounted, if_pos rfl]
  rfl

/-- A packet that is built from numbers that fit is read as it was built. Of all blocks of a
packet's size that start with the sync byte, exactly those are refused of which the adaptation
field overruns the end; any other has for its payload what is left behind header and adaptation
field, if it signals a payload, and none if not. -/
theorem ofBytes_packets :
    (∀ {pid counter : Nat} {payload : Octets} (startsUnit : Bool), pid < 8192 →
      payload.length ≤ 184 → counter < 16 →
      ∃ bytes, build pid payload startsUnit counter = .ok bytes ∧
        ofBytes bytes = .ok (plain pid counter payload startsUnit)) ∧
    ∀ {b₁ b₂ control : UInt8} {body : Octets}, body.length = 184 →
      ((∃ e, ofBytes (syncByte :: b₁ :: b₂ :: control :: body) = .error e) ↔
        Overruns control body) ∧
      (¬ Overruns control body → ∃ rest, Leaves control body rest ∧
        ofBytes (syncByte :: b₁ :: b₂ :: control :: body) = .ok (ofParts b₁ b₂ control rest) ∧
        (ofParts b₁ b₂ control rest).payload = if signalsPayload control then rest else []) := by
  refine ⟨fun startsUnit hpid fits hcounter => ofBytes_build startsUnit hpid fits hcounter,
    fun {b₁ b₂ control body} whole => ⟨⟨fun herror => ?_, fun h => ?_⟩, fun h => ?_⟩⟩
  · rcases leaves_or_overruns whole control with ⟨rest, hleaves⟩ | hoverruns
    · exact absurd (ofBytes_of_leaves whole hleaves) (exists_error_iff.mp herror _)
    · exact hoverruns
  · obtain ⟨position, herror⟩ := @ofBytes_of_overruns b₁ b₂ _ _ whole h
    exact ⟨_, herror⟩
  · obtain ⟨rest, hleaves⟩ := (leaves_or_overruns whole control).resolve_right h
    exact ⟨rest, hleaves, ofBytes_of_leaves whole hleaves, rfl⟩

/-- The largest numbers that can be built, and adaptation fields up to the end of the packet and
one byte longer. -/
theorem ofBytes_packets_limits :
    (∃ bytes, build 8191 [0x00, 0x4E] true 15 = .ok bytes ∧
      ofBytes bytes = .ok (plain 8191 15 [0x00, 0x4E] true)) ∧
    (∃ rest, Leaves 0x37 (183 :: List.replicate 183 0xFF) rest ∧
      ofBytes (0x47 :: 0x40 :: 0x12 :: 0x37 :: 183 :: List.replicate 183 0xFF) =
        .ok (ofParts 0x40 0x12 0x37 rest)) ∧
    Overruns 0x37 (184 :: List.replicate 183 0xFF) ∧
    ∃ e, ofBytes (0x47 :: 0x40 :: 0x12 :: 0x37 :: 184 :: List.replicate 183 0xFF) = .error e := by
  have hwhole (length : UInt8) : (length :: List.replicate 183 (0xFF : UInt8)).length = 184 := by
    rw [List.length_cons, List.length_replicate]
  have hfits : ¬ Overruns 0x37 (183 :: List.replicate 183 0xFF) := by
    rintro ⟨_, long⟩
    exact absurd long (by decide)
  have hpast : Overruns 0x37 (184 :: List.replicate 183 0xFF) := .intro rfl (by decide)
  obtain ⟨hbuilt, hblock⟩ := ofBytes_packets
  obtain ⟨rest, hleaves, hread, _⟩ := (@hblock 0x40 0x12 _ _ (hwhole 183)).2 hfits
  exact ⟨hbuilt true (by decide) (by decide) (by decide), ⟨rest, hleaves, hread⟩, hpast,
    (@hblock 0x40 0x12 _ _ (hwhole 184)).1.mpr hpast⟩

end BroadcastGuide.Transport.Packet
