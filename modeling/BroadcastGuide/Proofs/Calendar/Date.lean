import BroadcastGuide.Calendar.Date
import Mathlib.Logic.Function.Iterate

/-! Day numbers count the days of the calendar one by one, so no two dates have the same. -/

namespace BroadcastGuide.Calendar.Date

variable {d e : Date}

structure IsReal (d : Date) : Prop where
  one_le_month : 1 ≤ d.month
  month_le : d.month ≤ 12
  one_le_day : 1 ≤ d.day
  day_le : d.day ≤ daysInMonth d.year d.month

theorem check_of_isReal (h : d.IsReal) : d.check = .ok d := by
  obtain ⟨hm, hm', hd, hd'⟩ := h
  rw [check, if_neg (by omega), if_neg (by omega)]

theorem isReal_of_check (h : d.check = .ok e) : e = d ∧ d.IsReal := by
  unfold check at h
  split at h
  · cases h
  · split at h
    · cases h
    · refine ⟨(Except.ok.inj h).symm, ?_⟩
      constructor <;> omega

/-! ### The day after -/

def next (d : Date) : Date :=
  if d.day < daysInMonth d.year d.month then { d with day := d.day + 1 }
  else if d.month < 12 then ⟨d.year, d.month + 1, 1⟩
  else ⟨d.year + 1, 1, 1⟩

theorem daysInMonth_bounds (year month : Int) :
    28 ≤ daysInMonth year month ∧ daysInMonth year month ≤ 31 := by
  unfold daysInMonth
  split
  · split <;> omega
  · split <;> omega

theorem isReal_next (h : d.IsReal) : d.next.IsReal := by
  obtain ⟨hm, hm', hd, hd'⟩ := h
  unfold next
  split
  · constructor <;> dsimp only <;> omega
  · split
    · have := daysInMonth_bounds d.year (d.month + 1)
      constructor <;> dsimp only <;> omega
    · have := daysInMonth_bounds (d.year + 1) 1
      constructor <;> dsimp only <;> omega

theorem isLeapYear_iff (year : Int) :
    isLeapYear year = true ↔ year % 4 = 0 ∧ (year % 100 ≠ 0 ∨ year % 400 = 0) := by
  simp [isLeapYear]

theorem toDays_next (h : d.IsReal) : d.next.toDays = d.toDays + 1 := by
  obtain ⟨year, month, day⟩ := d
  obtain ⟨hm, hm', hd, hd'⟩ := h
  dsimp only at hm hm' hd hd'
  unfold next
  dsimp only
  split
  · simp only [toDays]
    omega
  · next hlast =>
    have hday : day = daysInMonth year month := by omega
    subst hday
    split
    · next hmonth =>
      obtain rfl | rfl | rfl | rfl | rfl | rfl | rfl | rfl | rfl | rfl | rfl :
        month = 1 ∨ month = 2 ∨ month = 3 ∨ month = 4 ∨ month = 5 ∨ month = 6 ∨ month = 7 ∨
          month = 8 ∨ month = 9 ∨ month = 10 ∨ month = 11 := by omega
      case inr.inl =>
        -- the leap day is the one that the year count takes in
        have hleap := isLeapYear_iff year
        simp only [toDays, daysInMonth]
        by_cases hl : isLeapYear year = true
        · have := hleap.mp hl
          simp [hl]
          omega
        · have := mt hleap.mpr hl
          simp [hl]
          omega
      all_goals
        simp [toDays, daysInMonth]
        omega
    · obtain rfl : month = 12 := by omega
      simp [toDays, daysInMonth]
      omega

/-- So many days later the day number is that much greater. -/
theorem toDays_iterate_next (h : d.IsReal) (n : Nat) :
    (next^[n] d).IsReal ∧ (next^[n] d).toDays = d.toDays + n := by
  induction n with
  | zero => exact ⟨h, by simp⟩
  | succ n ih =>
    rw [Function.iterate_succ_apply', toDays_next ih.1, ih.2]
    exact ⟨isReal_next ih.1, by omega⟩

/-! ### No number twice -/

def marchYear (d : Date) : Int := if d.month ≤ 2 then d.year - 1 else d.year

def marchMonth (d : Date) : Int := if d.month ≤ 2 then d.month + 9 else d.month - 3

def daysBeforeYear (y : Int) : Int := 365 * y + y / 4 - y / 100 + y / 400

def daysBeforeMonth (m : Int) : Int := (153 * m + 2) / 5

theorem toDays_eq (d : Date) : d.toDays =
    daysBeforeYear d.marchYear + daysBeforeMonth d.marchMonth + d.day - 719469 := rfl

theorem marchMonth_bounds (h : d.IsReal) : 0 ≤ d.marchMonth ∧ d.marchMonth ≤ 11 := by
  obtain ⟨hm, hm', -, -⟩ := h
  unfold marchMonth
  split <;> omega

/-- The days of a month come before the next month of the year. -/
theorem day_le_month (h : d.IsReal) (hm : d.marchMonth < 11) :
    daysBeforeMonth d.marchMonth + d.day ≤ daysBeforeMonth (d.marchMonth + 1) := by
  obtain ⟨year, month, day⟩ := d
  obtain ⟨hlow, hhigh, -, hday⟩ := h
  dsimp only at hlow hhigh hday
  have hfeb : month ≠ 2 := by
    rintro rfl
    exact absurd hm (by simp [marchMonth])
  obtain rfl | rfl | rfl | rfl | rfl | rfl | rfl | rfl | rfl | rfl | rfl :
    month = 1 ∨ month = 3 ∨ month = 4 ∨ month = 5 ∨ month = 6 ∨ month = 7 ∨ month = 8 ∨
      month = 9 ∨ month = 10 ∨ month = 11 ∨ month = 12 := by omega
  all_goals
    simp [daysInMonth] at hday
    simp [marchMonth, daysBeforeMonth]
    omega

/-- The days of a year come before the next year. -/
theorem day_le_year (h : d.IsReal) :
    daysBeforeYear d.marchYear + daysBeforeMonth d.marchMonth + d.day ≤
      daysBeforeYear (d.marchYear + 1) := by
  have hmonths := marchMonth_bounds h
  by_cases hm : d.marchMonth < 11
  · have hday := day_le_month h hm
    have hyear : daysBeforeYear d.marchYear + 365 ≤ daysBeforeYear (d.marchYear + 1) := by
      unfold daysBeforeYear
      omega
    unfold daysBeforeMonth at hday ⊢
    omega
  · -- the last month is February
    obtain ⟨year, month, day⟩ := d
    obtain ⟨hlow, hhigh, -, hday⟩ := h
    have hfeb : month = 2 := by
      unfold marchMonth at hm hmonths
      dsimp only at hm hmonths hlow hhigh
      split at hm <;> omega
    subst hfeb
    have hleap := isLeapYear_iff year
    simp only [daysInMonth, if_true] at hday
    simp only [marchYear, marchMonth, daysBeforeYear, daysBeforeMonth]
    by_cases hl : isLeapYear year = true
    · have := hleap.mp hl
      simp [hl] at hday ⊢
      omega
    · have := mt hleap.mpr hl
      simp [hl] at hday ⊢
      omega

theorem daysBeforeYear_mono {y z : Int} (h : y ≤ z) : daysBeforeYear y ≤ daysBeforeYear z := by
  unfold daysBeforeYear
  omega

theorem daysBeforeMonth_mono {m n : Int} (h : m ≤ n) : daysBeforeMonth m ≤ daysBeforeMonth n := by
  unfold daysBeforeMonth
  omega

theorem toDays_lt_of_year (hd : d.IsReal) (he : e.IsReal) (h : d.marchYear < e.marchYear) :
    d.toDays < e.toDays := by
  have hyear := day_le_year hd
  have hmono := daysBeforeYear_mono (show d.marchYear + 1 ≤ e.marchYear by omega)
  have hmonth := daysBeforeMonth_mono (marchMonth_bounds he).1
  have hzero : daysBeforeMonth 0 = 0 := rfl
  have hday := he.one_le_day
  rw [toDays_eq, toDays_eq]
  omega

theorem toDays_lt_of_month (hd : d.IsReal) (he : e.IsReal) (hyear : d.marchYear = e.marchYear)
    (h : d.marchMonth < e.marchMonth) : d.toDays < e.toDays := by
  have hlast := (marchMonth_bounds he).2
  have hmonth := day_le_month hd (by omega)
  have hmono := daysBeforeMonth_mono (show d.marchMonth + 1 ≤ e.marchMonth by omega)
  have hday := he.one_le_day
  rw [toDays_eq, toDays_eq, hyear]
  omega

/-- Dates with the same number are the same. -/
theorem eq_of_toDays_eq (hd : d.IsReal) (he : e.IsReal) (h : d.toDays = e.toDays) : d = e := by
  have hyear : d.marchYear = e.marchYear := by
    rcases Int.lt_trichotomy d.marchYear e.marchYear with hlt | heq | hgt
    · exact absurd h (Int.ne_of_lt (toDays_lt_of_year hd he hlt))
    · exact heq
    · exact absurd h.symm (Int.ne_of_lt (toDays_lt_of_year he hd hgt))
  have hmonth : d.marchMonth = e.marchMonth := by
    rcases Int.lt_trichotomy d.marchMonth e.marchMonth with hlt | heq | hgt
    · exact absurd h (Int.ne_of_lt (toDays_lt_of_month hd he hyear hlt))
    · exact heq
    · exact absurd h.symm (Int.ne_of_lt (toDays_lt_of_month he hd hyear.symm hgt))
  have hday : d.day = e.day := by
    rw [toDays_eq, toDays_eq, hyear, hmonth] at h
    omega
  obtain ⟨hm, hm', -, -⟩ := hd
  obtain ⟨hn, hn', -, -⟩ := he
  have hsame : d.month = e.month := by
    unfold marchMonth at hmonth
    split at hmonth <;> split at hmonth <;> omega
  obtain ⟨year, month, day⟩ := d
  obtain ⟨year', month', day'⟩ := e
  dsimp only at hsame hday
  subst hsame hday
  unfold marchYear at hyear
  dsimp only at hyear
  split at hyear
  · rw [show year = year' by omega]
  · rw [hyear]

end BroadcastGuide.Calendar.Date
