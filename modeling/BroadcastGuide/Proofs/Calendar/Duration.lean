import BroadcastGuide.Proofs.Calendar.StartTime
import BroadcastGuide.Proofs.Failure

/-! A duration from zero to just below one hundred hours has a field, and the field is read as that
duration. A field of decimal digits may hold sixty minutes or seconds and more; then it is read, but
another field is written for the duration that it is read as. -/

namespace BroadcastGuide.Calendar

namespace Bcd

theorem encode_eq_ok {n : Int} {b : UInt8} (h : encode n = .ok b) :
    IsDigits b ∧ (value b : Int) = n := by
  unfold encode at h
  split at h
  · rename_i range
    cases h
    have hbyte : (UInt8.ofNat (n.toNat / 10 * 16 + n.toNat % 10)).toNat =
        n.toNat / 10 * 16 + n.toNat % 10 := by
      rw [UInt8.toNat_ofNat', Nat.mod_eq_of_lt (by omega)]
    unfold IsDigits value
    omega
  · cases h

theorem value_le {b : UInt8} (h : IsDigits b) : value b ≤ 99 := by
  unfold IsDigits at h
  unfold value
  omega

theorem encode_of_not_le {n : Int} (h : ¬(0 ≤ n ∧ n ≤ 99)) : encode n = .error (.bcdRange n) :=
  if_neg h

end Bcd

namespace Duration

variable {h m s : UInt8} {seconds : Int}

/-! ### Reading a field -/

theorem decode_of_isDigits (hdigits : ∀ b ∈ [h, m, s], Bcd.IsDigits b) :
    decode [h, m, s] = .ok (3600 * Bcd.value h + 60 * Bcd.value m + Bcd.value s) := by
  rw [decode, Bcd.clock_of_isDigits hdigits]
  rfl

/-! ### Writing a field -/

/-- The number of hours is what does not fit. -/
theorem encode_of_not_lt (h : ¬(0 ≤ seconds ∧ seconds < 360000)) :
    encode seconds = .error (.bcdRange (seconds / 3600)) := by
  rw [encode, Bcd.encode_of_not_le (n := seconds / 3600) (by omega)]
  rfl

/-- A field that is written has minutes and seconds below sixty, and names the duration. -/
theorem encode_eq_ok {field : Octets} (h : encode seconds = .ok field) :
    ∃ b₂ b₁ b₀, field = [b₂, b₁, b₀] ∧ (∀ b ∈ [b₂, b₁, b₀], Bcd.IsDigits b) ∧
      Bcd.value b₁ < 60 ∧ Bcd.value b₀ < 60 ∧
      ((3600 * Bcd.value b₂ + 60 * Bcd.value b₁ + Bcd.value b₀ : Nat) : Int) = seconds := by
  unfold encode at h
  obtain ⟨b₂, h₂, h⟩ := exists_of_bind_eq_ok h
  obtain ⟨b₁, h₁, h⟩ := exists_of_bind_eq_ok h
  obtain ⟨b₀, h₀, h⟩ := exists_of_bind_eq_ok h
  obtain ⟨digits₂, value₂⟩ := Bcd.encode_eq_ok h₂
  obtain ⟨digits₁, value₁⟩ := Bcd.encode_eq_ok h₁
  obtain ⟨digits₀, value₀⟩ := Bcd.encode_eq_ok h₀
  refine ⟨b₂, b₁, b₀, (Except.ok.inj h).symm, by simp [digits₂, digits₁, digits₀], ?_⟩
  omega

/-- Hours, minutes below sixty and seconds below sixty are written as the digits that they are. -/
theorem encode_of_isDigits (hdigits : ∀ b ∈ [h, m, s], Bcd.IsDigits b) (hm : Bcd.value m < 60)
    (hs : Bcd.value s < 60)
    (hseconds : seconds = 3600 * Bcd.value h + 60 * Bcd.value m + Bcd.value s) :
    encode seconds = .ok [h, m, s] := by
  have hhour : seconds / 3600 = Bcd.value h := by omega
  have hminute : seconds % 3600 / 60 = Bcd.value m := by omega
  have hsecond : seconds % 60 = Bcd.value s := by omega
  have hhours := Bcd.encode_value (hdigits h (by simp))
  have hminutes := Bcd.encode_value (hdigits m (by simp))
  have hrest := Bcd.encode_value (hdigits s (by simp))
  simp only [encode, hhour, hminute, hsecond, hhours, hminutes, hrest, bind, Except.bind, pure,
    Except.pure]

/-- A number of seconds has a field if and only if it is from zero to just below one hundred hours,
and the field is read as that number; any other is refused for its hours. Three bytes of decimal
digits are read as so many hours, minutes and seconds, and they are the field of that duration if
and only if the minutes and the seconds are below sixty. -/
theorem encode_inverse :
    (∀ seconds : Int,
      ((∃ field, encode seconds = .ok field) ↔ 0 ≤ seconds ∧ seconds < 360000) ∧
        (∀ field, encode seconds = .ok field →
          field.length = 3 ∧ ∃ n : Nat, decode field = .ok n ∧ (n : Int) = seconds) ∧
        (¬(0 ≤ seconds ∧ seconds < 360000) →
          encode seconds = .error (.bcdRange (seconds / 3600)))) ∧
    ∀ h m s : UInt8, (∀ b ∈ [h, m, s], Bcd.IsDigits b) →
      let total := 3600 * Bcd.value h + 60 * Bcd.value m + Bcd.value s
      decode [h, m, s] = .ok total ∧
        (encode total = .ok [h, m, s] ↔ Bcd.value m < 60 ∧ Bcd.value s < 60) := by
  constructor
  · intro seconds
    refine ⟨⟨?_, ?_⟩, ?_, encode_of_not_lt⟩
    · rintro ⟨field, hfield⟩
      obtain ⟨b₂, b₁, b₀, -, hdigits, hminutes, hseconds, htotal⟩ := encode_eq_ok hfield
      have hhours := Bcd.value_le (hdigits b₂ (by simp))
      omega
    · rintro ⟨low, high⟩
      obtain ⟨n, rfl⟩ := Int.eq_ofNat_of_zero_le low
      obtain ⟨b₂, b₁, b₀, hencode, -⟩ := @exists_encode n (by omega)
      exact ⟨_, hencode⟩
    · intro field hfield
      obtain ⟨b₂, b₁, b₀, rfl, hdigits, -, -, htotal⟩ := encode_eq_ok hfield
      exact ⟨rfl, _, decode_of_isDigits hdigits, htotal⟩
  · intro h m s hdigits total
    refine ⟨decode_of_isDigits hdigits, ?_, ?_⟩
    · intro hencode
      obtain ⟨b₂, b₁, b₀, hfield, -, hminutes, hseconds, -⟩ := encode_eq_ok hencode
      cases hfield
      exact ⟨hminutes, hseconds⟩
    · rintro ⟨hm, hs⟩
      exact encode_of_isDigits hdigits hm hs rfl

/-- The last second that has a field, and the durations next to those that have one; ninety-nine
minutes and sixty seconds, which are read but written otherwise. -/
theorem encode_inverse_limits :
    (∃ n : Nat, decode [0x99, 0x59, 0x59] = .ok n ∧ (n : Int) = 359999) ∧
      encode 360000 = .error (.bcdRange 100) ∧ encode (-1) = .error (.bcdRange (-1)) ∧
      decode [0x01, 0x99, 0x60] = .ok 9600 ∧ encode 9600 ≠ .ok [0x01, 0x99, 0x60] := by
  obtain ⟨hread, hwritten⟩ :=
    encode_inverse.2 0x01 0x99 0x60 (by simp [Bcd.IsDigits])
  exact ⟨((encode_inverse.1 359999).2.1 [0x99, 0x59, 0x59] rfl).2,
    (encode_inverse.1 360000).2.2 (by decide), (encode_inverse.1 (-1)).2.2 (by decide), hread,
    fun h => absurd (hwritten.mp h).1 (by decide)⟩

end Duration

end BroadcastGuide.Calendar
