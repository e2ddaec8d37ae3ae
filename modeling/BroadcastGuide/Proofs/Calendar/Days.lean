import BroadcastGuide.Proofs.Calendar.Date

/-! The date of a day number is one that the calendar has, and has that number. -/

namespace BroadcastGuide.Calendar.Date

/-! ### The days of four hundred years -/

/-- The year in which a day of an era lies. Both are counted from zero, and years begin in March. -/
def yearOfEra (dayOfEra : Int) : Int :=
  (dayOfEra - dayOfEra / 1460 + dayOfEra / 36524 - dayOfEra / 146096) / 365

/-- The day within its year, counted from zero. -/
def dayOfYear (dayOfEra : Int) : Int :=
  dayOfEra - (365 * yearOfEra dayOfEra + yearOfEra dayOfEra / 4 - yearOfEra dayOfEra / 100)

section Era

variable {e : Int}

theorem yearOfEra_bounds (low : 0 ≤ e) (high : e < 146097) :
    0 ≤ yearOfEra e ∧ yearOfEra e ≤ 399 := by
  unfold yearOfEra
  omega

theorem yearOfEra_eq (low : 0 ≤ e) (high : e < 146096) :
    yearOfEra e = (e - e / 1460 + e / 36524) / 365 := by
  unfold yearOfEra
  omega

/-- The hundreds of the year are the centuries of 36524 days before it. -/
theorem yearOfEra_div_hundred (low : 0 ≤ e) (high : e < 146096) :
    yearOfEra e / 100 = e / 36524 := by
  rw [yearOfEra_eq low high]
  omega

/-- Before the year there are as many leap days as spans of 1460 days before the day, or one
less. -/
theorem yearOfEra_div_four (low : 0 ≤ e) (high : e < 146096) :
    yearOfEra e / 4 ≤ e / 1460 ∧ e / 1460 ≤ yearOfEra e / 4 + 1 := by
  have hspans : 25 * (e / 36524) ≤ e / 1460 ∧ e / 1460 ≤ 100 := by omega
  have hyear := yearOfEra_eq low high
  omega

theorem dayOfYear_bounds (low : 0 ≤ e) (high : e < 146097) :
    0 ≤ dayOfYear e ∧ dayOfYear e ≤ 365 := by
  rcases Int.lt_or_eq_of_le (Int.le_sub_one_of_lt high) with hlt | rfl
  · have hyear := yearOfEra_eq low hlt
    have hcentury := yearOfEra_div_hundred low hlt
    have hleap := yearOfEra_div_four low hlt
    unfold dayOfYear
    omega
  · decide

/-- Only a year that ends with a leap day has a last day with the number 365. -/
theorem yearOfEra_of_leapDay (low : 0 ≤ e) (high : e < 146097) (h : dayOfYear e = 365) :
    yearOfEra e % 4 = 3 ∧ (yearOfEra e % 100 ≠ 99 ∨ yearOfEra e = 399) := by
  rcases Int.lt_or_eq_of_le (Int.le_sub_one_of_lt high) with hlt | rfl
  · have hyear := yearOfEra_eq low hlt
    have hcentury := yearOfEra_div_hundred low hlt
    have hleap := yearOfEra_div_four low hlt
    unfold dayOfYear at h
    have hlast : e % 1460 = e / 1460 - e / 36524 - 1 := by omega
    have hfour : yearOfEra e % 4 = 3 := by omega
    refine ⟨hfour, Or.inl ?_⟩
    omega
  · decide

end Era

/-! ### Dates of day numbers -/

/-- The day number within its era, the eras beginning with the first of March of year zero. -/
def dayOfEra (n : Int) : Int := (n + 719468) % 146097

/-- The month of a day, counted from zero, March being zero. -/
def monthOf (dayOfYear : Int) : Int := (5 * dayOfYear + 2) / 153

theorem dayOfEra_bounds (n : Int) : 0 ≤ dayOfEra n ∧ dayOfEra n < 146097 := by
  unfold dayOfEra
  omega

theorem monthOf_bounds {d : Int} (low : 0 ≤ d) (high : d ≤ 365) :
    0 ≤ monthOf d ∧ monthOf d ≤ 11 := by
  unfold monthOf
  omega

variable (n : Int)

theorem month_ofDays : (ofDays n).month =
    if monthOf (dayOfYear (dayOfEra n)) < 10 then monthOf (dayOfYear (dayOfEra n)) + 3
    else monthOf (dayOfYear (dayOfEra n)) - 9 := rfl

theorem year_ofDays : (ofDays n).year =
    yearOfEra (dayOfEra n) + (n + 719468) / 146097 * 400 +
      (if (ofDays n).month ≤ 2 then 1 else 0) := rfl

theorem day_ofDays : (ofDays n).day =
    dayOfYear (dayOfEra n) - daysBeforeMonth (monthOf (dayOfYear (dayOfEra n))) + 1 := rfl

theorem marchMonth_ofDays : (ofDays n).marchMonth = monthOf (dayOfYear (dayOfEra n)) := by
  obtain ⟨low, high⟩ := dayOfEra_bounds n
  obtain ⟨first, last⟩ := dayOfYear_bounds low high
  have hmonth := monthOf_bounds first last
  rw [marchMonth, month_ofDays]
  split <;> split <;> omega

theorem marchYear_ofDays : (ofDays n).marchYear =
    yearOfEra (dayOfEra n) + (n + 719468) / 146097 * 400 := by
  rw [marchYear, year_ofDays]
  split <;> omega

/-- The date of a day number has that number. -/
theorem toDays_ofDays : (ofDays n).toDays = n := by
  obtain ⟨low, high⟩ := dayOfEra_bounds n
  have hyear := yearOfEra_bounds low high
  have hsplit : dayOfEra n = n + 719468 - 146097 * ((n + 719468) / 146097) := by
    unfold dayOfEra
    omega
  rw [toDays_eq, marchYear_ofDays, marchMonth_ofDays, day_ofDays]
  unfold dayOfYear daysBeforeYear
  omega

/-- All months but the last have the days up to the next one. -/
theorem daysInMonth_of_marchMonth {m : Int} (low : 0 ≤ m) (high : m < 11) (year : Int) :
    daysInMonth year (if m < 10 then m + 3 else m - 9) =
      daysBeforeMonth (m + 1) - daysBeforeMonth m := by
  obtain rfl | rfl | rfl | rfl | rfl | rfl | rfl | rfl | rfl | rfl | rfl :
    m = 0 ∨ m = 1 ∨ m = 2 ∨ m = 3 ∨ m = 4 ∨ m = 5 ∨ m = 6 ∨ m = 7 ∨ m = 8 ∨ m = 9 ∨ m = 10 := by
    omega
  all_goals rfl

theorem isLeapYear_of_leapDay (h : dayOfYear (dayOfEra n) = 365) :
    isLeapYear (ofDays n).year = true := by
  obtain ⟨low, high⟩ := dayOfEra_bounds n
  have hleap := yearOfEra_of_leapDay low high h
  have hfebruary : (ofDays n).month = 2 := by
    rw [month_ofDays, h]
    rfl
  rw [isLeapYear_iff, year_ofDays, hfebruary]
  omega

theorem day_ofDays_le : (ofDays n).day ≤ daysInMonth (ofDays n).year (ofDays n).month := by
  obtain ⟨low, high⟩ := dayOfEra_bounds n
  obtain ⟨first, last⟩ := dayOfYear_bounds low high
  obtain ⟨hm, hm'⟩ := monthOf_bounds first last
  rcases Int.lt_or_eq_of_le hm' with hlt | hfebruary
  · rw [month_ofDays, daysInMonth_of_marchMonth hm hlt, day_ofDays]
    unfold daysBeforeMonth monthOf
    omega
  · have hmonth : (ofDays n).month = 2 := by
      rw [month_ofDays, hfebruary]
      rfl
    have hlength : daysInMonth (ofDays n).year 2 =
        if isLeapYear (ofDays n).year then 29 else 28 := rfl
    have hday : (ofDays n).day = dayOfYear (dayOfEra n) - 336 := by
      rw [day_ofDays, hfebruary, show daysBeforeMonth 11 = 337 from rfl]
      omega
    rw [hmonth, hlength, hday]
    by_cases hleap : dayOfYear (dayOfEra n) = 365
    · rw [if_pos (isLeapYear_of_leapDay n hleap)]
      omega
    · split <;> omega

/-- The date of a day number is one that the calendar has. -/
theorem isReal_ofDays : (ofDays n).IsReal := by
  obtain ⟨low, high⟩ := dayOfEra_bounds n
  obtain ⟨first, last⟩ := dayOfYear_bounds low high
  have hmonth := monthOf_bounds first last
  have hbounds : 1 ≤ (ofDays n).month ∧ (ofDays n).month ≤ 12 := by
    rw [month_ofDays]
    split <;> omega
  have hday : 1 ≤ (ofDays n).day := by
    rw [day_ofDays]
    unfold daysBeforeMonth monthOf
    omega
  exact ⟨hbounds.1, hbounds.2, hday, day_ofDays_le n⟩

end BroadcastGuide.Calendar.Date
