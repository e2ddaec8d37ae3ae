import BroadcastGuide.Proofs.Calendar.Field

/-! From 1900-03-01 on, a start time of decimal digits is read as the instant that it names, and the
fields that are written are the fields that are read. -/

namespace BroadcastGuide.Calendar

namespace Bcd

variable {b h m s : UInt8}

def IsDigits (b : UInt8) : Prop := b.toNat / 16 ≤ 9 ∧ b.toNat % 16 ≤ 9

instance (b : UInt8) : Decidable (IsDigits b) := inferInstanceAs (Decidable (_ ∧ _))

def value (b : UInt8) : Nat := 10 * (b.toNat / 16) + b.toNat % 16

theorem decode_of_isDigits (hb : IsDigits b) : decode b.toNat = .ok (value b) := by
  obtain ⟨hhigh, hlow⟩ := hb
  rw [decode, if_neg (by omega), value]
  congr 1
  omega

theorem decode_of_not_isDigits (hb : ¬IsDigits b) :
    decode b.toNat = .error (.bcdDigit b.toNat) := by
  have hlt := b.toNat_lt
  unfold IsDigits at hb
  rw [decode, if_pos (by omega)]

theorem encode_value (hb : IsDigits b) : encode (value b) = .ok b := by
  obtain ⟨hhigh, hlow⟩ := hb
  have hdigits : value b / 10 * 16 + value b % 10 = b.toNat := by
    unfold value
    omega
  rw [encode, if_pos (by unfold value; omega), Int.toNat_natCast, hdigits, UInt8.ofNat_toNat]

theorem clock_of_isDigits (hdigits : ∀ b ∈ [h, m, s], IsDigits b) :
    clock [h, m, s] = .ok ⟨value h, value m, value s⟩ := by
  have hh := decode_of_isDigits (hdigits h (by simp))
  have hm := decode_of_isDigits (hdigits m (by simp))
  have hs := decode_of_isDigits (hdigits s (by simp))
  simp only [clock, hh, hm, hs, bind, Except.bind, pure, Except.pure]

/-- The first byte that is not two digits is the one reported. -/
theorem clock_of_not_isDigits (hnot : ¬∀ b ∈ [h, m, s], IsDigits b) :
    ∃ b ∈ [h, m, s], ¬IsDigits b ∧ clock [h, m, s] = .error (.bcdDigit b.toNat) := by
  by_cases hh : IsDigits h
  · by_cases hm : IsDigits m
    · have hs : ¬IsDigits s := fun hs => hnot (by simp [hh, hm, hs])
      refine ⟨s, by simp, hs, ?_⟩
      simp only [clock, decode_of_isDigits hh, decode_of_isDigits hm, decode_of_not_isDigits hs,
        bind, Except.bind]
    · refine ⟨m, by simp, hm, ?_⟩
      simp only [clock, decode_of_isDigits hh, decode_of_not_isDigits hm, bind, Except.bind]
  · refine ⟨h, by simp, hh, ?_⟩
    simp only [clock, decode_of_not_isDigits hh, bind, Except.bind]

end Bcd

namespace ZonedTime

def IsAt (w : ZonedTime) (t : Instant) : Prop := w.shown - w.ahead = 1000000 * t

theorem IsAt.toInstant_eq {w : ZonedTime} {t : Instant} (h : w.IsAt t)
    (ht : Instant.inCalendar t = true) : w.toInstant = .ok t := by
  have hquot : (w.shown - w.ahead) / 1000000 = t := by
    rw [h]
    exact Int.mul_ediv_cancel_left t (by decide)
  rw [toInstant, hquot, Instant.shift, Int.add_zero, if_pos ht]

end ZonedTime

namespace StartTime

variable {d₁ d₀ h m s : UInt8} {hourOffset : Int}

/-! ### Reading a field -/

theorem decode_of_isDigits (first : 15079 ≤ Octets.word d₁ d₀)
    (hdigits : ∀ b ∈ [h, m, s], Bcd.IsDigits b) (low : -12 ≤ hourOffset) (high : hourOffset ≤ 12) :
    decode [d₁, d₀, h, m, s] hourOffset =
      .ok (((Octets.word d₁ d₀ : Int) - 40587) * 86400 + 3600 * (Bcd.value h + hourOffset) +
        60 * Bcd.value m + Bcd.value s) := by
  have last : Octets.word d₁ d₀ ≤ 65535 := Nat.le_of_lt_succ (Octets.word_lt d₁ d₀)
  have htotal : ((Bcd.Clock.total ⟨Bcd.value h, Bcd.value m, Bcd.value s⟩ : Nat) : Int) =
      3600 * Bcd.value h + 60 * Bcd.value m + Bcd.value s := by
    simp only [Bcd.Clock.total]
    omega
  rw [decode_of_midnight (Bcd.clock_of_isDigits hdigits) (midnight_eq first last) low high, htotal]
  exact congrArg Except.ok (show @Eq Int _ _ by omega)

/-- From 1900-03-01 on, the quotients count the days of the calendar, and a field of decimal digits
is the instant so many hours, minutes and seconds after its day begins, as many as there may be. Any
other field is malformed. -/
theorem decode_eq_instant (first : 15079 ≤ Octets.word d₁ d₀) (low : -12 ≤ hourOffset)
    (high : hourOffset ≤ 12) :
    let mjd := Octets.word d₁ d₀
    JulianDay.toDate mjd = Date.next^[mjd - 15079] ⟨1900, 3, 1⟩ ∧
      ((∀ b ∈ [h, m, s], Bcd.IsDigits b) →
        decode [d₁, d₀, h, m, s] hourOffset =
          .ok (((mjd : Int) - 40587) * 86400 + 3600 * (Bcd.value h + hourOffset) +
            60 * Bcd.value m + Bcd.value s)) ∧
      ((¬∀ b ∈ [h, m, s], Bcd.IsDigits b) →
        ∃ b ∈ [h, m, s], ¬Bcd.IsDigits b ∧
          decode [d₁, d₀, h, m, s] hourOffset = .error (.malformed (.bcdDigit b.toNat))) := by
  refine ⟨JulianDay.toDate_eq_iterate first (Nat.le_of_lt_succ (Octets.word_lt d₁ d₀)),
    fun hdigits => decode_of_isDigits first hdigits low high, fun hnot => ?_⟩
  obtain ⟨b, hb, hbad, hclock⟩ := Bcd.clock_of_not_isDigits hnot
  exact ⟨b, hb, hbad, decode_of_clock_error hclock hourOffset⟩

/-- Eleven at night with ninety-nine minutes and seventy-five seconds more, twelve hours earlier;
and an hour that is not two digits. -/
theorem decode_lateClock :
    decode [0xC0, 0x79, 0x23, 0x99, 0x75] (-12) = .ok 750516015 ∧
      ∃ b ∈ [0x1A, 0x00, 0xFF], ¬Bcd.IsDigits b ∧
        decode [0xC0, 0x79, 0x1A, 0x00, 0xFF] 12 = .error (.malformed (.bcdDigit b.toNat)) :=
  ⟨((decode_eq_instant (by decide) (by decide) (by decide)).2.1 (by simp [Bcd.IsDigits])).trans
      (congrArg Except.ok (by decide)),
    (decode_eq_instant (by decide) (by decide) (by decide)).2.2 (by simp [Bcd.IsDigits])⟩

/-! ### Writing a field -/

/-- A day from 1900-03-01 on and a time of day are written as the digits that they are. -/
theorem encode_of_isDigits (first : 15079 ≤ Octets.word d₁ d₀)
    (hdigits : ∀ b ∈ [h, m, s], Bcd.IsDigits b) (hh : Bcd.value h < 24) (hm : Bcd.value m < 60)
    (hs : Bcd.value s < 60) {t : Int}
    (ht : t = ((Octets.word d₁ d₀ : Int) - 40587) * 86400 + 3600 * Bcd.value h +
      60 * Bcd.value m + Bcd.value s) :
    encode t = .ok [d₁, d₀, h, m, s] := by
  have hlt := Octets.word_lt d₁ d₀
  have hsec : Instant.secondOfDay t = t % 86400 := rfl
  have hday : Instant.day t = t / 86400 := rfl
  have hnumber : ((Instant.day t + JulianDay.epoch) % 65536).toNat = Octets.word d₁ d₀ := by
    rw [hday, show JulianDay.epoch = 40587 from rfl]
    omega
  have hhour : Instant.hour t = Bcd.value h := by
    rw [Instant.hour, hsec]
    omega
  have hminute : Instant.minute t = Bcd.value m := by
    rw [Instant.minute, hsec]
    omega
  have hsecond : Instant.second t = Bcd.value s := by
    rw [Instant.second, hsec]
    omega
  simp only [encode, hhour, hminute, hsecond, hnumber, Octets.ofWord_word,
    Bcd.encode_value (hdigits h (by simp)), Bcd.encode_value (hdigits m (by simp)),
    Bcd.encode_value (hdigits s (by simp)), bind, Except.bind, pure, Except.pure]
  rfl

theorem encodeZoned_eq {w : ZonedTime} {t : Instant} (hw : w.IsAt t)
    (ht : Instant.inCalendar t = true) : encodeZoned w = .ok (encode t) := by
  rw [encodeZoned, hw.toInstant_eq ht]
  rfl

/-- An instant from 1900-03-01 to 2038-04-22 on the clocks of any zone is read back from its field,
and a field of that time whose digits are a time of day is written again for what it is read as. -/
theorem encodeZoned_inverse :
    (∀ (w : ZonedTime) (t : Instant), w.IsAt t → Instant.midnight ⟨1900, 3, 1⟩ ≤ t →
      t < Instant.midnight ⟨2038, 4, 23⟩ →
        ∃ field, encodeZoned w = .ok (.ok field) ∧ decode field 0 = .ok t) ∧
    ∀ d₁ d₀ h m s : UInt8, 15079 ≤ Octets.word d₁ d₀ → (∀ b ∈ [h, m, s], Bcd.IsDigits b) →
      Bcd.value h < 24 → Bcd.value m < 60 → Bcd.value s < 60 →
        ∃ t, decode [d₁, d₀, h, m, s] 0 = .ok t ∧
          ∀ w : ZonedTime, w.IsAt t → encodeZoned w = .ok (.ok [d₁, d₀, h, m, s]) := by
  constructor
  · intro w t hw low high
    obtain ⟨d₁, d₀, b₂, b₁, b₀, hencode, hdecode⟩ := exists_encode low high
    have hlow : (-2203891200 : Int) ≤ t := low
    have hhigh : @LT.lt Int _ t 2155593600 := high
    have hin : Instant.inCalendar t = true := Instant.inCalendar_iff.mpr (by omega)
    exact ⟨_, (encodeZoned_eq hw hin).trans (congrArg Except.ok hencode), hdecode⟩
  · intro d₁ d₀ h m s first hdigits hh hm hs
    have hlt := Octets.word_lt d₁ d₀
    refine ⟨_, decode_of_isDigits first hdigits (by decide) (by decide), fun w hw => ?_⟩
    rw [encodeZoned_eq hw (Instant.inCalendar_iff.mpr (by omega))]
    exact congrArg Except.ok (encode_of_isDigits first hdigits hh hm hs (by omega))

/-- The last second, on clocks five hours and three quarters ahead. -/
theorem encodeZoned_lastSecond :
    (∃ field, encodeZoned ⟨2155614299000000, 20700000000⟩ = .ok (.ok field) ∧
      decode field 0 = .ok 2155593599) ∧
    ∃ t, decode [0xFF, 0xFF, 0x23, 0x59, 0x59] 0 = .ok t ∧
      ∀ w : ZonedTime, w.IsAt t → encodeZoned w = .ok (.ok [0xFF, 0xFF, 0x23, 0x59, 0x59]) :=
  ⟨encodeZoned_inverse.1 _ _ rfl (by decide) (by decide),
    encodeZoned_inverse.2 _ _ _ _ _ (by decide) (by simp [Bcd.IsDigits]) (by decide) (by decide)
      (by decide)⟩

end StartTime

end BroadcastGuide.Calendar
