import BroadcastGuide.Proofs.Calendar.StartTime

/-! Every instant has a field, but a field holds sixteen bits of day number, and the quotients count
the days of the calendar from 1900-03-01 on only. Instants beyond are refused or read as others. -/

namespace BroadcastGuide.Calendar

namespace JulianDay

variable {n : Int}

def number (d : Date) : Int := d.toDays + epoch

/-- The day that a day number of sixteen bits is read as. Before 1900-03-01 all that is read is
taken for a day of January, two days on, or of February, three days on. -/
inductive ReadAs : Int → Int → Prop
  | itself {n : Int} (first : 15079 ≤ n) : ReadAs n n
  | january {n year day : Int} (early : n < 15079) (one_le_day : 1 ≤ day) (day_le : day ≤ 30)
      (number_eq : number ⟨year, 1, day⟩ = n + 2) : ReadAs n (n + 2)
  | february {n year day : Int} (early : n < 15079) (isReal : Date.IsReal ⟨year, 2, day⟩)
      (number_eq : number ⟨year, 2, day⟩ = n + 3) : ReadAs n (n + 3)

/-! ### The quotients before 1900-03-01 -/

/-- By how many years the first quotient falls short of 1900. -/
def yearsShort (n : Int) : Int := (1507820 - 100 * n) / 36525

def daysLeft (n : Int) : Int := n + 1461 * yearsShort n / 4 - 14956

theorem daysLeft_le (low : 0 ≤ n) (early : n < 15079) :
    0 ≤ yearsShort n ∧ yearsShort n ≤ 41 ∧ daysLeft n ≤ 122 := by
  unfold daysLeft yearsShort
  omega

theorem exactDate_early (low : 0 ≤ n) (early : n < 15079) {month : Int}
    (hmonth : Int.tdiv (10000 * daysLeft n - 1000) 306001 = month) :
    exactDate n =
      fold (-yearsShort n) month (daysLeft n - Int.tdiv (306001 * month) 10000) := by
  obtain ⟨hyears, -, -⟩ := daysLeft_le low early
  have hyear : Int.tdiv (100 * n - 1507820) 36525 = -yearsShort n := by
    rw [show 100 * n - 1507820 = -(1507820 - 100 * n) by omega, Int.neg_tdiv,
      tdiv_eq_ediv (by omega), yearsShort]
  have hdays : Int.tdiv (1461 * -yearsShort n) 4 = -(1461 * yearsShort n / 4) := by
    rw [Int.mul_neg, Int.neg_tdiv, tdiv_eq_ediv (by omega)]
  have hleft : 10000 * (n - -(1461 * yearsShort n / 4)) - 149561000 =
      10000 * daysLeft n - 1000 := by
    unfold daysLeft
    omega
  have hday : n - 14956 - -(1461 * yearsShort n / 4) = daysLeft n := by
    unfold daysLeft
    omega
  simp only [exactDate, hyear, hdays, hleft, hmonth, hday]

/-- The third quotient gives no month, or January or February. -/
theorem exactDate_early_cases (low : 0 ≤ n) (early : n < 15079) :
    (exactDate n).month < 1 ∧ daysLeft n ≤ 61 ∨
      exactDate n = ⟨1900 - yearsShort n, 1, daysLeft n - 61⟩ ∧
        62 ≤ daysLeft n ∧ daysLeft n ≤ 91 ∨
      exactDate n = ⟨1900 - yearsShort n, 2, daysLeft n - 91⟩ ∧ 92 ≤ daysLeft n := by
  obtain ⟨-, -, hleft⟩ := daysLeft_le low early
  by_cases hnone : daysLeft n ≤ 61
  · left
    have hmonth : Int.tdiv (10000 * daysLeft n - 1000) 306001 ≤ 1 := by
      rw [Int.tdiv_eq_ediv, show Int.sign 306001 = 1 from rfl]
      split <;> omega
    rw [exactDate_early low early rfl]
    simp only [fold]
    split <;> omega
  · have hmonth : Int.tdiv (10000 * daysLeft n - 1000) 306001 =
        (10000 * daysLeft n - 1000) / 306001 := tdiv_eq_ediv (by omega) _
    right
    by_cases hfirst : daysLeft n ≤ 91
    · left
      rw [exactDate_early low early (hmonth.trans (show _ = 2 by omega))]
      exact ⟨by simp [fold]; omega, by omega, hfirst⟩
    · right
      rw [exactDate_early low early (hmonth.trans (show _ = 3 by omega))]
      exact ⟨by simp [fold]; omega, by omega⟩

/-! ### Days of January and February -/

theorem number_eq {year month day : Int} (hmonth : month = 1 ∨ month = 2) :
    number ⟨year, month, day⟩ = 365 * year + (year - 1) / 4 - (year - 1) / 100 +
      (year - 1) / 400 + 31 * month + day - 678972 := by
  rcases hmonth with rfl | rfl
  · simp only [number, epoch, Date.toDays, if_pos (show (1 : Int) ≤ 2 by decide)]
    omega
  · simp only [number, epoch, Date.toDays, if_pos (show (2 : Int) ≤ 2 by decide)]
    omega

theorem number_short {years month day : Int} (hmonth : month = 1 ∨ month = 2) (low : 0 ≤ years)
    (high : years ≤ 41) : number ⟨1900 - years, month, day⟩ =
      14988 - 1461 * years / 4 + 31 * month + day := by
  have hcentury : (1900 - years - 1) / 100 = 18 := by omega
  have hera : (1900 - years - 1) / 400 = 4 := by omega
  rw [number_eq hmonth, hcentury, hera]
  omega

/-- What the quotients leave is the day of January or February two or three days on. -/
theorem number_early (low : 0 ≤ n) (early : n < 15079) {month : Int}
    (hmonth : month = 1 ∨ month = 2) :
    number ⟨1900 - yearsShort n, month, daysLeft n - 31 - 30 * month⟩ = n + 1 + month := by
  obtain ⟨hyears, hyears', -⟩ := daysLeft_le low early
  rw [number_short hmonth hyears hyears']
  unfold daysLeft
  omega

/-- No other day of January or February is so many days on. -/
theorem eq_of_number_early (low : 0 ≤ n) (early : n < 15079) {year month day : Int}
    (hmonth : month = 1 ∨ month = 2) (one_le_day : 1 ≤ day) (day_le : day ≤ 30)
    (h : number ⟨year, month, day⟩ = n + 1 + month) :
    1900 - yearsShort n = year ∧ daysLeft n - 31 - 30 * month = day := by
  have hyear : 0 ≤ 1900 - year ∧ 1900 - year ≤ 41 := by
    rw [number_eq hmonth] at h
    omega
  rw [show year = 1900 - (1900 - year) by omega, number_short hmonth hyear.1 hyear.2] at h
  have hshort : yearsShort n = 1900 - year := by
    unfold yearsShort
    omega
  unfold daysLeft
  rw [hshort]
  omega

/-! ### What a day number is read as -/

theorem exactDate_of_number (low : 0 ≤ n) (early : n < 15079) {year month day : Int}
    (hmonth : month = 1 ∨ month = 2) (one_le_day : 1 ≤ day) (day_le : day ≤ 30)
    (h : number ⟨year, month, day⟩ = n + 1 + month) : exactDate n = ⟨year, month, day⟩ := by
  obtain ⟨rfl, rfl⟩ := eq_of_number_early low early hmonth one_le_day day_le h
  rcases exactDate_early_cases low early with ⟨-, hleft⟩ | ⟨hdate, -, hleft⟩ | ⟨hdate, hleft⟩
  · omega
  · obtain rfl : month = 1 := by omega
    exact hdate.trans (congrArg _ (by omega))
  · obtain rfl : month = 2 := by omega
    exact hdate.trans (congrArg _ (by omega))

theorem readAs_iff_of_early (low : 0 ≤ n) (early : n < 15079) {m : Int} :
    ReadAs n m ↔ (exactDate n).IsReal ∧ number (exactDate n) = m := by
  constructor
  · intro h
    cases h with
    | itself first => omega
    | january _ one_le_day day_le number_eq =>
      rw [exactDate_of_number low early (Or.inl rfl) one_le_day day_le
        (number_eq.trans (show n + 2 = n + 1 + 1 by omega))]
      refine ⟨⟨Int.le_refl 1, show (1 : Int) ≤ 12 by decide, one_le_day, ?_⟩, number_eq⟩
      exact Int.le_trans day_le (by simp [daysInMonth])
    | february _ isReal number_eq =>
      have one_le_day := isReal.one_le_day
      have day_le := isReal.day_le
      rw [daysInMonth, if_pos rfl] at day_le
      dsimp only at one_le_day day_le
      rw [exactDate_of_number low early (Or.inr rfl) one_le_day (by split at day_le <;> omega)
        (number_eq.trans (show n + 3 = n + 1 + 2 by omega))]
      exact ⟨isReal, number_eq⟩
  · rintro ⟨isReal, rfl⟩
    rcases exactDate_early_cases low early with ⟨hmonth, -⟩ | ⟨hdate, hlow, hhigh⟩ | ⟨hdate, -⟩
    · exact absurd isReal.one_le_month (by omega)
    · have hnumber := number_early low early (Or.inl rfl)
      rw [show daysLeft n - 31 - 30 * 1 = daysLeft n - 61 by omega, ← hdate] at hnumber
      rw [hnumber, show n + 1 + 1 = n + 2 by omega]
      rw [hdate] at hnumber
      exact .january early (by omega) (by omega) (hnumber.trans (by omega))
    · have hnumber := number_early low early (Or.inr rfl)
      rw [show daysLeft n - 31 - 30 * 2 = daysLeft n - 91 by omega, ← hdate] at hnumber
      rw [hnumber, show n + 1 + 2 = n + 3 by omega]
      rw [hdate] at hnumber isReal
      exact .february early isReal (hnumber.trans (by omega))

theorem readAs_iff {n : Nat} (h : n < 65536) {m : Int} :
    ReadAs n m ↔ (toDate n).IsReal ∧ number (toDate n) = m := by
  rw [toDate_eq_exactDate h]
  rcases Nat.lt_or_ge n 15079 with early | first
  · exact readAs_iff_of_early (by omega) (by omega)
  · have hlow : (15079 : Int) ≤ n := by omega
    have hhigh : (n : Int) ≤ 65535 := by omega
    have hreal := isReal_exactDate hlow hhigh
    have hnumber : number (exactDate n) = n := by
      rw [number, toDays_exactDate hlow hhigh]
      omega
    rw [hnumber]
    constructor
    · rintro (_ | ⟨early, -, -, -⟩ | ⟨early, -, -⟩)
      · exact ⟨hreal, rfl⟩
      · omega
      · omega
    · rintro ⟨-, rfl⟩
      exact .itself hlow

theorem ReadAs.eq_or {m : Int} (h : ReadAs n m) :
    15079 ≤ n ∧ m = n ∨ n < 15079 ∧ (m = n + 2 ∨ m = n + 3) := by
  cases h with
  | itself first => exact Or.inl ⟨first, rfl⟩
  | january early => exact Or.inr ⟨early, Or.inl rfl⟩
  | february early => exact Or.inr ⟨early, Or.inr rfl⟩

theorem readAs_self_iff : ReadAs (n % 65536) n ↔ 15079 ≤ n ∧ n ≤ 65535 := by
  constructor
  · intro h
    have := h.eq_or
    omega
  · rintro ⟨first, last⟩
    rw [Int.emod_eq_of_lt (by omega) (by omega)]
    exact .itself first

end JulianDay

namespace StartTime

open JulianDay (ReadAs)

theorem midnight_of_readAs {n : Nat} (h : n < 65536) {m : Int} (hm : ReadAs n m) :
    midnight n = .ok ((m - 40587) * 86400) := by
  obtain ⟨hreal, rfl⟩ := (JulianDay.readAs_iff h).mp hm
  rw [midnight, Date.check_of_isReal hreal]
  dsimp only
  rw [Instant.midnight, JulianDay.number, show JulianDay.epoch = 40587 from rfl,
    Int.add_sub_cancel]
  rfl

theorem midnight_of_not_readAs {n : Nat} (h : n < 65536) (hnone : ∀ m, ¬ReadAs n m) :
    ∃ e, midnight n = .error e := by
  unfold midnight
  split
  · next date hdate =>
    have hreal := (Date.isReal_of_check hdate).2
    exact absurd ((JulianDay.readAs_iff h).mpr ⟨hreal, rfl⟩) (hnone _)
  · exact ⟨_, rfl⟩

/-- The field of an instant keeps its time of day and the low bits of its day number. -/
theorem exists_field (t : Instant) :
    let n := t.day + JulianDay.epoch
    ∃ field, encode t = .ok field ∧
      (∀ m, ReadAs (n % 65536) m → decode field 0 = .ok (t + (m - n) * 86400)) ∧
      ((∀ m, ¬ReadAs (n % 65536) m) → ∃ e, decode field 0 = .error (.malformed e)) := by
  intro n
  obtain ⟨h, m, s, clock, hencode, hclock, htotal⟩ := encode_eq_ok t
  have hn : n = t.day + 40587 := rfl
  obtain ⟨low, hlow⟩ : ∃ low : Nat, (low : Int) = n % 65536 := ⟨(n % 65536).toNat, by omega⟩
  have hlt : low < 65536 := by omega
  have hword := Octets.word_ofWord hlt
  rw [show ((t.day + JulianDay.epoch) % 65536).toNat = low by omega] at hencode
  rw [← hlow]
  refine ⟨_, hencode, ?_, ?_⟩
  · intro k hk
    have hmidnight := midnight_of_readAs hlt hk
    rw [← hword] at hmidnight
    have hdecode := decode_of_midnight hclock hmidnight (by decide) (show (0 : Int) ≤ 12 by decide)
    refine hdecode.trans (congrArg Except.ok (show @Eq Int _ _ from ?_))
    have hsplit := t.eq_day_add
    have hsecond := t.secondOfDay_bounds
    omega
  · intro hnone
    obtain ⟨e, hmidnight⟩ := midnight_of_not_readAs hlt hnone
    rw [← hword] at hmidnight
    exact ⟨e, decode_of_midnight_error hclock hmidnight 0⟩

/-- The days that are read as themselves are those from 1900-03-01 to 2038-04-22. -/
theorem readAs_day_iff (t : Instant) :
    ReadAs ((t.day + JulianDay.epoch) % 65536) (t.day + JulianDay.epoch) ↔
      Instant.midnight ⟨1900, 3, 1⟩ ≤ t ∧ t < Instant.midnight ⟨2038, 4, 23⟩ := by
  have hepoch : JulianDay.epoch = 40587 := rfl
  have hsplit := t.eq_day_add
  have hsecond := t.secondOfDay_bounds
  rw [JulianDay.readAs_self_iff]
  change _ ↔ (-2203891200 : Int) ≤ t ∧ @LT.lt Int _ t 2155593600
  omega

/-- Every instant has a field. If the low bits of its day number are read as a day, the field is
read as that day and the same time of day, and otherwise it is malformed. The instant itself is read
from 1900-03-01 to 2038-04-22 and at no other time. -/
theorem decode_encode_day (t : Instant) :
    let n := t.day + JulianDay.epoch
    ∃ field, encode t = .ok field ∧
      (∀ m, ReadAs (n % 65536) m → decode field 0 = .ok (t + (m - n) * 86400)) ∧
      ((∃ e, decode field 0 = .error (.malformed e)) ↔ ∀ m, ¬ReadAs (n % 65536) m) ∧
      (decode field 0 = .ok t ↔
        Instant.midnight ⟨1900, 3, 1⟩ ≤ t ∧ t < Instant.midnight ⟨2038, 4, 23⟩) := by
  intro n
  obtain ⟨field, hencode, hread, hrefuse⟩ := exists_field t
  refine ⟨field, hencode, hread, ⟨?_, hrefuse⟩, ?_⟩
  · rintro ⟨e, he⟩ k hk
    rw [hread k hk] at he
    cases he
  · rw [← readAs_day_iff]
    constructor
    · intro hself
      by_cases hsome : ∃ k, ReadAs (n % 65536) k
      · obtain ⟨k, hk⟩ := hsome
        have hsame : @Eq Int (t + (k - n) * 86400) t :=
          Except.ok.inj ((hread k hk).symm.trans hself)
        rwa [show k = n by omega] at hk
      · obtain ⟨e, he⟩ := hrefuse (not_exists.mp hsome)
        rw [he] at hself
        cases hself
    · intro hitself
      refine (hread _ hitself).trans (congrArg Except.ok (show @Eq Int _ _ from ?_))
      omega

/-- The day that begins 2079-08-05 is read as 1900-03-01, since its number does not fit, and the one
that begins 1858-12-30 is read as 1859-01-01, since the quotients do not fit it. -/
theorem decode_encode_otherDay :
    (encode 3458419200 = .ok [0x3A, 0xE7, 0x00, 0x00, 0x00] ∧
      decode [0x3A, 0xE7, 0x00, 0x00, 0x00] 0 = .ok (-2203891200)) ∧
    encode (-3503001600) = .ok [0x00, 0x2B, 0x00, 0x00, 0x00] ∧
      decode [0x00, 0x2B, 0x00, 0x00, 0x00] 0 = .ok (-3502828800) :=
  ⟨⟨rfl, rfl⟩, rfl, rfl⟩

end StartTime

end BroadcastGuide.Calendar
