import BroadcastGuide.Proofs.Calendar.JulianDay
import BroadcastGuide.Proofs.Octets

/-! Time fields never leave the calendar, and from 1900-03-01 to 2038-04-22 they give back the
instant that they were made from. -/

namespace BroadcastGuide

namespace Calendar

namespace Bcd

theorem decode_le {v : Int} {n : Nat} (h : decode v = .ok n) : n ≤ 99 := by
  unfold decode at h
  dsimp only at h
  split at h
  · cases h
  · cases h
    omega

theorem total_clock_le {field : Octets} {c : Clock} (h : clock field = .ok c) :
    c.total ≤ 362439 := by
  unfold clock at h
  split at h
  · rename_i b₂ b₁ b₀ _
    cases hh : decode b₂.toNat with
    | error e => simp [hh, bind, Except.bind] at h
    | ok hours =>
      cases hm : decode b₁.toNat with
      | error e => simp [hh, hm, bind, Except.bind] at h
      | ok minutes =>
        cases hs : decode b₀.toNat with
        | error e => simp [hh, hm, hs, bind, Except.bind] at h
        | ok seconds =>
          simp only [hh, hm, hs, bind, Except.bind, pure, Except.pure, Except.ok.injEq] at h
          have h₂ := decode_le hh
          have h₁ := decode_le hm
          have h₀ := decode_le hs
          rw [← h]
          simp only [Clock.total]
          omega
  · cases h

theorem encode_ok {n : Int} (h : 0 ≤ n) (h' : n ≤ 99) : ∃ b, encode n = .ok b :=
  ⟨_, if_pos ⟨h, h'⟩⟩

/-- Three encoded numbers are read back as a clock. -/
theorem clock_encode {h m s : Int} {b₂ b₁ b₀ : UInt8} (hh : encode h = .ok b₂)
    (hm : encode m = .ok b₁) (hs : encode s = .ok b₀) :
    clock [b₂, b₁, b₀] = .ok ⟨h.toNat, m.toNat, s.toNat⟩ := by
  simp only [clock, decode_encode hh, decode_encode hm, decode_encode hs, bind, Except.bind, pure,
    Except.pure]

end Bcd

namespace JulianDay

theorem year_toDate_bounds {mjd : Nat} (h : mjd < 65536) :
    1858 ≤ (toDate mjd).year ∧ (toDate mjd).year ≤ 2039 := by
  rw [toDate_eq_exactDate h]
  have hyear : -41 ≤ Int.tdiv (100 * mjd - 1507820) 36525 ∧
      Int.tdiv (100 * mjd - 1507820) 36525 ≤ 138 := by
    rw [Int.tdiv_eq_ediv, show Int.sign 36525 = 1 from rfl]
    split <;> omega
  simp only [exactDate, fold]
  split <;> omega

end JulianDay

theorem Instant.inCalendar_iff {t : Int} :
    Instant.inCalendar t = true ↔ -62135596800 ≤ t ∧ t ≤ 253402300799 := by
  simp only [Instant.inCalendar, Bool.and_eq_true, decide_eq_true_eq]
  exact Iff.rfl

theorem Instant.shift_eq {t seconds : Int} (h : Instant.inCalendar (t + seconds) = true) :
    Instant.shift t seconds = .ok (t + seconds) :=
  if_pos h

theorem Instant.eq_of_shift_eq_ok {t seconds u : Int} (h : Instant.shift t seconds = .ok u) :
    u = t + seconds := by
  unfold shift at h
  split at h
  · exact (Except.ok.inj h).symm
  · cases h

/-- An instant is so many seconds after its day begins. -/
theorem Instant.eq_day_add (t : Instant) : @Eq Int t (t.day * 86400 + t.secondOfDay) :=
  (Int.ediv_mul_add_emod t 86400).symm

theorem Instant.secondOfDay_bounds (t : Instant) : 0 ≤ t.secondOfDay ∧ t.secondOfDay < 86400 :=
  ⟨Int.emod_nonneg t (by decide), Int.emod_lt_of_pos t (by decide)⟩

namespace StartTime

theorem midnight_bounds {mjd : Nat} (h : mjd < 65536) {t : Int} (ht : midnight mjd = .ok t) :
    -3590000000 ≤ t ∧ t ≤ 2300000000 := by
  unfold midnight at ht
  split at ht
  · rename_i date hdate
    obtain ⟨rfl, hm, hm', hd, hd'⟩ := Date.isReal_of_check hdate
    have hlast :=
      (Date.daysInMonth_bounds (JulianDay.toDate mjd).year (JulianDay.toDate mjd).month).2
    obtain ⟨hy, hy'⟩ := JulianDay.year_toDate_bounds h
    rw [← Except.ok.inj ht, Instant.midnight, Instant.secondsPerDay]
    have hdays : -41500 ≤ (JulianDay.toDate mjd).toDays ∧
        (JulianDay.toDate mjd).toDays ≤ 26600 := by
      unfold Date.toDays
      dsimp only
      split <;> omega
    omega
  · cases ht

theorem parts_bounds {field : Octets} {start : Int} {clock : Bcd.Clock}
    (h : parts field = .ok (start, clock)) :
    -3590000000 ≤ start ∧ start ≤ 2300000000 ∧ clock.total ≤ 362439 := by
  unfold parts at h
  split at h
  · rename_i d₁ d₀ b₂ b₁ b₀ _
    cases hc : Bcd.clock [b₂, b₁, b₀] with
    | error e => simp [hc, bind, Except.bind] at h
    | ok c =>
      cases hm : midnight (Octets.word d₁ d₀) with
      | error e => simp [hc, hm, bind, Except.bind] at h
      | ok t =>
        simp only [hc, hm, bind, Except.bind, pure, Except.pure, Except.ok.injEq,
          Prod.mk.injEq] at h
        obtain ⟨rfl, rfl⟩ := h
        obtain ⟨h₁, h₂⟩ := midnight_bounds (Octets.word_lt d₁ d₀) hm
        exact ⟨h₁, h₂, Bcd.total_clock_le hc⟩
  · cases h

/-- A start time is malformed or lies within the times of broadcasts. -/
theorem decode_cases {hourOffset : Int} (low : -12 ≤ hourOffset) (high : hourOffset ≤ 12)
    (field : Octets) :
    (∃ e, decode field hourOffset = .error (.malformed e)) ∨
      ∃ t : Int, decode field hourOffset = .ok t ∧ -3600000000 ≤ t ∧ t ≤ 2301000000 := by
  unfold decode
  cases hp : parts field with
  | error e => exact Or.inl ⟨e, rfl⟩
  | ok p =>
    obtain ⟨start, clock⟩ := p
    obtain ⟨h₁, h₂, h₃⟩ := parts_bounds hp
    have hin : Instant.inCalendar (start + (clock.total + 3600 * hourOffset)) = true :=
      Instant.inCalendar_iff.mpr (by omega)
    have hshift := Instant.shift_eq hin
    simp only [hshift]
    exact Or.inr ⟨_, rfl, by omega, by omega⟩

theorem midnight_eq {mjd : Nat} (h : 15079 ≤ mjd) (h' : mjd ≤ 65535) :
    midnight mjd = .ok (((mjd : Int) - 40587) * 86400) := by
  have hlow : (15079 : Int) ≤ mjd := by omega
  have hhigh : (mjd : Int) ≤ 65535 := by omega
  rw [midnight, JulianDay.toDate_eq_exactDate (by omega),
    Date.check_of_isReal (JulianDay.isReal_exactDate hlow hhigh)]
  simp only [Instant.midnight, JulianDay.toDays_exactDate hlow hhigh]
  rfl

/-! ### Reading a field -/

section Reading

variable {d₁ d₀ b₂ b₁ b₀ : UInt8} {clock : Bcd.Clock} {e : DecodeError} {start hourOffset : Int}

theorem decode_of_clock_error (hc : Bcd.clock [b₂, b₁, b₀] = .error e) (hourOffset : Int) :
    decode [d₁, d₀, b₂, b₁, b₀] hourOffset = .error (.malformed e) := by
  simp only [decode, parts, hc, bind, Except.bind]

theorem decode_of_midnight_error (hc : Bcd.clock [b₂, b₁, b₀] = .ok clock)
    (hm : midnight (Octets.word d₁ d₀) = .error e) (hourOffset : Int) :
    decode [d₁, d₀, b₂, b₁, b₀] hourOffset = .error (.malformed e) := by
  simp only [decode, parts, hc, hm, bind, Except.bind]

theorem decode_of_midnight (hc : Bcd.clock [b₂, b₁, b₀] = .ok clock)
    (hm : midnight (Octets.word d₁ d₀) = .ok start) (low : -12 ≤ hourOffset)
    (high : hourOffset ≤ 12) :
    decode [d₁, d₀, b₂, b₁, b₀] hourOffset =
      .ok (start + ((clock.total : Int) + 3600 * hourOffset)) := by
  have hparts : parts [d₁, d₀, b₂, b₁, b₀] = .ok (start, clock) := by
    simp only [parts, hc, hm, bind, Except.bind, pure, Except.pure]
  obtain ⟨h₁, h₂, h₃⟩ := parts_bounds hparts
  have hin : Instant.inCalendar (start + (clock.total + 3600 * hourOffset)) = true :=
    Instant.inCalendar_iff.mpr (by omega)
  simp only [decode, hparts, Instant.shift_eq hin]

end Reading

/-! ### Writing a field -/

/-- Every instant has a field: the low bits of its day number, and digits for its time of day. -/
theorem encode_eq_ok (t : Instant) : ∃ b₂ b₁ b₀ clock,
    encode t = .ok (Octets.ofWord ((t.day + JulianDay.epoch) % 65536).toNat ++ [b₂, b₁, b₀]) ∧
      Bcd.clock [b₂, b₁, b₀] = .ok clock ∧ (clock.total : Int) = t.secondOfDay := by
  have hsec := t.secondOfDay_bounds
  obtain ⟨b₂, h₂⟩ := Bcd.encode_ok (n := t.hour) (by unfold Instant.hour; omega)
    (by unfold Instant.hour; omega)
  obtain ⟨b₁, h₁⟩ := Bcd.encode_ok (n := t.minute) (by unfold Instant.minute; omega)
    (by unfold Instant.minute; omega)
  obtain ⟨b₀, h₀⟩ := Bcd.encode_ok (n := t.second) (by unfold Instant.second; omega)
    (by unfold Instant.second; omega)
  refine ⟨b₂, b₁, b₀, _, ?_, Bcd.clock_encode h₂ h₁ h₀, ?_⟩
  · simp only [encode, h₂, h₁, h₀, bind, Except.bind, pure, Except.pure]
  · simp only [Bcd.Clock.total, Instant.hour, Instant.minute, Instant.second]
    omega

/-- A start time from 1900-03-01 to 2038-04-22 is encoded in five bytes and read back. -/
theorem exists_encode {t : Int} (low : Instant.midnight ⟨1900, 3, 1⟩ ≤ t)
    (high : t < Instant.midnight ⟨2038, 4, 23⟩) :
    ∃ d₁ d₀ b₂ b₁ b₀, encode t = .ok [d₁, d₀, b₂, b₁, b₀] ∧
      decode [d₁, d₀, b₂, b₁, b₀] 0 = .ok t := by
  have hlow : -2203891200 ≤ t := low
  have hhigh : t < 2155593600 := high
  have hsplit := Instant.eq_day_add t
  have hsec := Instant.secondOfDay_bounds t
  obtain ⟨b₂, b₁, b₀, clock, hencode, hclock, htotal⟩ := encode_eq_ok t
  obtain ⟨mjd, hmjd⟩ : ∃ mjd : Nat, (mjd : Int) = Instant.day t + 40587 :=
    ⟨(Instant.day t + 40587).toNat, by omega⟩
  have hword : ((Instant.day t + JulianDay.epoch) % 65536).toNat = mjd := by
    rw [show JulianDay.epoch = 40587 from rfl]
    omega
  have hmidnight := midnight_eq (show 15079 ≤ mjd by omega) (by omega)
  rw [← Octets.word_ofWord (show mjd < 65536 by omega)] at hmidnight
  have hdecode := decode_of_midnight hclock hmidnight (by decide) (show (0 : Int) ≤ 12 by decide)
  rw [hword] at hencode
  refine ⟨UInt8.ofNat (mjd / 256), UInt8.ofNat mjd, b₂, b₁, b₀, hencode,
    hdecode.trans (congrArg Except.ok (show @Eq Int _ _ from ?_))⟩
  rw [Octets.word_ofWord (show mjd < 65536 by omega)]
  omega

end StartTime

namespace Duration

/-- A duration below one hundred hours is encoded in three bytes and read back. -/
theorem exists_encode {seconds : Nat} (h : seconds < 360000) :
    ∃ b₂ b₁ b₀, encode seconds = .ok [b₂, b₁, b₀] ∧ decode [b₂, b₁, b₀] = .ok seconds := by
  obtain ⟨b₂, h₂⟩ := Bcd.encode_ok (n := (seconds : Int) / 3600) (by omega) (by omega)
  obtain ⟨b₁, h₁⟩ := Bcd.encode_ok (n := (seconds : Int) % 3600 / 60) (by omega) (by omega)
  obtain ⟨b₀, h₀⟩ := Bcd.encode_ok (n := (seconds : Int) % 60) (by omega) (by omega)
  refine ⟨b₂, b₁, b₀, ?_, ?_⟩
  · simp only [encode, h₂, h₁, h₀, bind, Except.bind, pure, Except.pure]
  · simp only [decode, Bcd.clock_encode h₂ h₁ h₀, Except.map, Bcd.Clock.total, Except.ok.injEq]
    omega

end Duration

end Calendar

end BroadcastGuide
