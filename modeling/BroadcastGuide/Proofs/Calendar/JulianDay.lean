import BroadcastGuide.Calendar.Field
import BroadcastGuide.Proofs.Calendar.Date

/-! The three quotients give the Gregorian date of every day number of sixteen bits from
1900-03-01 on. -/

namespace BroadcastGuide.Calendar

namespace JulianDay

theorem toDate_eq_exactDate {mjd : Nat} (h : mjd < 65536) : toDate mjd = exactDate mjd := by
  have hlog : Nat.log2 mjd < 40 := by
    by_cases h0 : mjd = 0
    · simp [h0]
    · exact (Nat.log2_lt h0).mpr (by omega)
  rw [toDate, Int.natAbs_natCast, if_pos hlog]

/-- The first quotient, for the day numbers from 1900-03-01 on. -/
def years (mjd : Int) : Int := (100 * mjd - 1507820) / 36525

/-- Days that the years before the current one leave over, and the months in them. -/
def months (mjd : Int) : Int := (10000 * (mjd - 1461 * years mjd / 4) - 149561000) / 306001

theorem tdiv_eq_ediv {a : Int} (h : 0 ≤ a) (b : Int) : Int.tdiv a b = a / b :=
  Int.tdiv_eq_ediv_of_nonneg h

/-- The days left of the current year, counted as the quotients count them, and with them the
bounds of its months. -/
theorem months_bounds {mjd : Int} (h : 15079 ≤ mjd) (h' : mjd ≤ 65535) :
    0 ≤ years mjd ∧ years mjd ≤ 138 ∧ 4 ≤ months mjd ∧ months mjd ≤ 15 := by
  unfold months years
  omega

theorem exactDate_eq {mjd : Int} (h : 15079 ≤ mjd) (h' : mjd ≤ 65535) :
    exactDate mjd = fold (years mjd) (months mjd)
      (mjd - 14956 - 1461 * years mjd / 4 - 306001 * months mjd / 10000) := by
  obtain ⟨hy, _, hm, _⟩ := months_bounds h h'
  have hyears : Int.tdiv (100 * mjd - 1507820) 36525 = years mjd := tdiv_eq_ediv (by omega) _
  have hdays : Int.tdiv (1461 * years mjd) 4 = 1461 * years mjd / 4 := tdiv_eq_ediv (by omega) _
  have hmonths : Int.tdiv (10000 * (mjd - 1461 * years mjd / 4) - 149561000) 306001 =
      months mjd := tdiv_eq_ediv (by unfold months at hm; omega) _
  have hbefore : Int.tdiv (306001 * months mjd) 10000 = 306001 * months mjd / 10000 :=
    tdiv_eq_ediv (by omega) _
  simp only [exactDate, hyears, hdays, hmonths, hbefore]

theorem isLeapYear_of_years {year : Int} (h : year % 4 = 0) (low : 1904 ≤ year)
    (high : year ≤ 2096) : isLeapYear year = true := by
  have hc : year % 100 ≠ 0 ∨ year % 400 = 0 := by omega
  rcases hc with hc | hc <;> simp [isLeapYear, h, hc]

def dayOfMonth (mjd : Int) : Int :=
  mjd - 14956 - 1461 * years mjd / 4 - 306001 * months mjd / 10000

theorem dayOfMonth_pos {mjd : Int} (h : 15079 ≤ mjd) (h' : mjd ≤ 65535) : 1 ≤ dayOfMonth mjd := by
  obtain ⟨_, _, _, _⟩ := months_bounds h h'
  unfold dayOfMonth
  unfold months at *
  omega

/-- Months counted from March on begin where the third quotient puts them. -/
theorem days_before_month {m : Int} (h : 4 ≤ m) (h' : m ≤ 15) :
    (153 * (m - 4) + 2) / 5 = 306001 * m / 10000 - 122 := by
  obtain rfl | rfl | rfl | rfl | rfl | rfl | rfl | rfl | rfl | rfl | rfl | rfl :
    m = 4 ∨ m = 5 ∨ m = 6 ∨ m = 7 ∨ m = 8 ∨ m = 9 ∨ m = 10 ∨ m = 11 ∨ m = 12 ∨ m = 13 ∨ m = 14 ∨
      m = 15 := by omega
  all_goals decide

/-- From 1900 to 2099 the leap days of centuries make up fifteen days. -/
theorem centuries_eq {y : Int} (h : 0 ≤ y) (h' : y ≤ 138) :
    (1900 + y) / 100 - (1900 + y) / 400 = 15 := by
  by_cases hy : y < 100 <;> omega

theorem toDays_fold {y m d : Int} (hy : 0 ≤ y) (hy' : y ≤ 138) (hm : 4 ≤ m) (hm' : m ≤ 15) :
    (fold y m d).toDays = 1461 * y / 4 + 306001 * m / 10000 + d - 25631 := by
  have hdays := days_before_month hm hm'
  have hcent := centuries_eq hy hy'
  have hleap : (1900 + y) / 4 = 475 + y / 4 := by omega
  have hyear : 1461 * y / 4 = 365 * y + y / 4 := by omega
  by_cases hk : m = 14 ∨ m = 15
  · have hmonth : m - 1 - 12 * 1 ≤ 2 := by omega
    simp only [fold, Date.toDays, if_pos hk, if_pos hmonth]
    rw [show 1900 + y + 1 - 1 = 1900 + y by omega, show m - 1 - 12 * 1 + 9 = m - 4 by omega]
    omega
  · have hmonth : ¬ m - 1 - 12 * 0 ≤ 2 := by omega
    simp only [fold, Date.toDays, if_neg hk, if_neg hmonth]
    rw [show 1900 + y + 0 = 1900 + y by omega, show m - 1 - 12 * 0 - 3 = m - 4 by omega]
    omega

/-- A month has no more days than the quotients leave for it; the twenty-ninth of February is left
in leap years only. -/
theorem dayOfMonth_le {mjd : Int} (h : 15079 ≤ mjd) (h' : mjd ≤ 65535) :
    dayOfMonth mjd ≤ daysInMonth (fold (years mjd) (months mjd) 0).year
      (fold (years mjd) (months mjd) 0).month := by
  obtain ⟨hy, hy', hm, hm'⟩ := months_bounds h h'
  have hrest : 100 * mjd - 1507820 < 36525 * (years mjd + 1) := by
    unfold years
    omega
  have hmonths : 10000 * (mjd - 1461 * years mjd / 4) - 149561000 < 306001 * (months mjd + 1) := by
    unfold months
    omega
  unfold dayOfMonth
  generalize years mjd = y at *
  generalize months mjd = m at *
  by_cases hfeb : m = 15
  · subst hfeb
    have hyear : (fold y 15 0).year = 1901 + y := by
      show 1900 + y + 1 = 1901 + y
      omega
    have hmonth : (fold y 15 0).month = 2 := rfl
    rw [hyear, hmonth, daysInMonth, if_pos rfl]
    have hquarter : 1461 * y / 4 = 365 * y + y / 4 := by omega
    by_cases hleap : y % 4 = 3
    · rw [if_pos (isLeapYear_of_years (by omega) (by omega) (by omega))]
      omega
    · have hrem : y % 4 = 0 ∨ y % 4 = 1 ∨ y % 4 = 2 := by omega
      split <;> rcases hrem with hr | hr | hr <;> omega
  · obtain rfl | rfl | rfl | rfl | rfl | rfl | rfl | rfl | rfl | rfl | rfl :
      m = 4 ∨ m = 5 ∨ m = 6 ∨ m = 7 ∨ m = 8 ∨ m = 9 ∨ m = 10 ∨ m = 11 ∨ m = 12 ∨ m = 13 ∨
        m = 14 := by omega
    all_goals
      simp only [fold, daysInMonth]
      simp
      omega

/-- The quotients make a date. -/
theorem isReal_exactDate {mjd : Int} (h : 15079 ≤ mjd) (h' : mjd ≤ 65535) :
    (exactDate mjd).IsReal := by
  obtain ⟨hy, hy', hm, hm'⟩ := months_bounds h h'
  have hday := dayOfMonth_pos h h'
  have hlast := dayOfMonth_le h h'
  have hmonth : 1 ≤ (exactDate mjd).month ∧ (exactDate mjd).month ≤ 12 := by
    rw [exactDate_eq h h']
    simp only [fold]
    split <;> omega
  have hyear : (exactDate mjd).year = (fold (years mjd) (months mjd) 0).year := by
    rw [exactDate_eq h h']
    rfl
  have hname : (exactDate mjd).month = (fold (years mjd) (months mjd) 0).month := by
    rw [exactDate_eq h h']
    rfl
  have hd : (exactDate mjd).day = dayOfMonth mjd := by
    rw [exactDate_eq h h']
    rfl
  rw [← hyear, ← hname, ← hd] at hlast
  exact ⟨hmonth.1, hmonth.2, hd ▸ hday, hlast⟩

/-- The date is the one of the day number. -/
theorem toDays_exactDate {mjd : Int} (h : 15079 ≤ mjd) (h' : mjd ≤ 65535) :
    (exactDate mjd).toDays = mjd - epoch := by
  obtain ⟨hy, hy', hm, hm'⟩ := months_bounds h h'
  rw [exactDate_eq h h', toDays_fold hy hy' hm hm']
  unfold epoch
  omega

/-- From 1900-03-01 on, the date of a day number is the one that so many days lead to. -/
theorem toDate_eq_iterate {mjd : Nat} (h : 15079 ≤ mjd) (h' : mjd ≤ 65535) :
    toDate mjd = Date.next^[mjd - 15079] ⟨1900, 3, 1⟩ := by
  have hlow : (15079 : Int) ≤ mjd := by omega
  have hhigh : (mjd : Int) ≤ 65535 := by omega
  have hfirst : Date.IsReal ⟨1900, 3, 1⟩ := (Date.isReal_of_check rfl).2
  obtain ⟨hreal, hdays⟩ := Date.toDays_iterate_next hfirst (mjd - 15079)
  have hnumber : Date.toDays ⟨1900, 3, 1⟩ = 15079 - epoch := by decide
  rw [toDate_eq_exactDate (by omega)]
  refine Date.eq_of_toDays_eq (isReal_exactDate hlow hhigh) hreal ?_
  rw [toDays_exactDate hlow hhigh, hdays, hnumber]
  omega

end JulianDay

end BroadcastGuide.Calendar
