import BroadcastGuide.Proofs.Calendar.Days
import BroadcastGuide.Proofs.Calendar.Field
import BroadcastGuide.Xmltv

/-! Time stamps read back: a date and a time of day on the clocks of a zone, less what the zone is
ahead of universal time. The same instant is read from its time stamps in all zones. -/

namespace BroadcastGuide

namespace Numeral

def digitsAhead? (width : Nat) (text : List Char) : Option (Int × List Char) :=
  if (text.take width).length = width ∧ (text.take width).all Char.isDigit then
    some (Nat.ofDigitChars 10 (text.take width) 0, text.drop width)
  else none

theorem toList_padded (width n : Nat) : (padded width n).toList =
    List.replicate (width - (Nat.toDigits 10 n).length) '0' ++ Nat.toDigits 10 n := by
  have hsign : ¬ (n : Int) < 0 := by omega
  rw [padded, signed, if_neg hsign, String.toList_ofList, Int.natAbs_natCast]
  rfl

/-- A padded number that fits its width is read back, whatever stands behind it. -/
theorem digitsAhead?_padded {width : Nat} (some_width : 0 < width) {n : Int} (low : 0 ≤ n)
    (fits : n.toNat < Nat.pow 10 width) (rest : List Char) :
    digitsAhead? width ((padded width n).toList ++ rest) = some (n, rest) := by
  obtain ⟨n, rfl⟩ := Int.eq_ofNat_of_zero_le low
  have hfits : (Nat.toDigits 10 n).length ≤ width :=
    (Nat.length_toDigits_le_iff (by decide) some_width).mpr fits
  have hlength : (padded width n).toList.length = width := by
    rw [toList_padded, List.length_append, List.length_replicate]
    omega
  have hdigits : (padded width n).toList.all Char.isDigit = true := by
    rw [toList_padded, List.all_append, List.all_replicate]
    simp only [Bool.and_eq_true]
    refine ⟨by split <;> decide, List.all_eq_true.mpr fun c hc => ?_⟩
    exact Nat.isDigit_of_mem_toDigits (by decide) (by decide) hc
  have hvalue : Nat.ofDigitChars 10 (padded width n).toList 0 = n := by
    rw [toList_padded, Nat.ofDigitChars_append, Nat.ofDigitChars_replicate_zero,
      Nat.mul_zero, Nat.ofDigitChars_ten_toDigits]
  rw [digitsAhead?, List.take_left' hlength, List.drop_left' hlength, if_pos ⟨hlength, hdigits⟩,
    hvalue]

end Numeral

/-- The calendar has all instants of the years 1 to 9999. -/
theorem Calendar.Instant.inCalendar_of_year {t : Int} (first : 1 ≤ (Instant.date t).year)
    (last : (Instant.date t).year ≤ 9999) : Instant.inCalendar t = true := by
  have hdays : (Instant.date t).toDays = Instant.day t := Date.toDays_ofDays (Instant.day t)
  obtain ⟨hmonth, hmonth', hday, hday'⟩ : (Instant.date t).IsReal :=
    Date.isReal_ofDays (Instant.day t)
  have hlength := (Date.daysInMonth_bounds (Instant.date t).year (Instant.date t).month).2
  have hbounds : -719162 ≤ (Instant.date t).toDays ∧ (Instant.date t).toDays ≤ 2932896 := by
    unfold Date.toDays
    dsimp only
    split <;> omega
  have hsplit := Instant.eq_day_add t
  have hsecond := Instant.secondOfDay_bounds t
  rw [Instant.inCalendar_iff]
  omega

namespace Xmltv

open Calendar
open Numeral (padded digitsAhead?)

/-- What the clocks show at the front of a text, as seconds from 1970-01-01T00:00:00 on these
clocks. -/
def localAhead? (text : List Char) : Option (Int × List Char) := do
  let (year, text) ← digitsAhead? 4 text
  let (month, text) ← digitsAhead? 2 text
  let (day, text) ← digitsAhead? 2 text
  let (hour, text) ← digitsAhead? 2 text
  let (minute, text) ← digitsAhead? 2 text
  let (second, text) ← digitsAhead? 2 text
  let date ← (Date.mk year month day).check.toOption
  if hour < 24 ∧ minute < 60 ∧ second < 60 then
    return (Instant.midnight date + 3600 * hour + 60 * minute + second, text)
  else none

def hoursMinutes? (text : List Char) : Option Int := do
  let (hours, text) ← digitsAhead? 2 text
  let (minutes, text) ← digitsAhead? 2 text
  if hours < 24 ∧ minutes < 60 ∧ text = [] then return 3600 * hours + 60 * minutes else none

def offset? : List Char → Option Int
  | '+' :: text => hoursMinutes? text
  | '-' :: text => (hoursMinutes? text).map (- ·)
  | _ => none

def instant? (stamp : String) : Option Instant := do
  let (there, text) ← localAhead? stamp.toList
  let ahead ← if text.head? = some ' ' then offset? text.tail else none
  return there - ahead

theorem digitsAhead?_two {n : Int} (low : 0 ≤ n) (high : n < 100) (rest : List Char) :
    digitsAhead? 2 ((padded 2 n).toList ++ rest) = some (n, rest) := by
  have hfits : n.toNat < Nat.pow 10 2 := show n.toNat < 100 by omega
  exact Numeral.digitsAhead?_padded (by decide) low hfits rest

theorem digitsAhead?_four {n : Int} (low : 0 ≤ n) (high : n < 10000) (rest : List Char) :
    digitsAhead? 4 ((padded 4 n).toList ++ rest) = some (n, rest) := by
  have hfits : n.toNat < Nat.pow 10 4 := show n.toNat < 10000 by omega
  exact Numeral.digitsAhead?_padded (by decide) low hfits rest

theorem localAhead?_localText {t : Instant} (low : 0 ≤ t.date.year) (high : t.date.year ≤ 9999)
    (rest : List Char) : localAhead? ((localText t).toList ++ rest) = some (t, rest) := by
  have hdate : t.date.IsReal := Date.isReal_ofDays t.day
  have hsecond := t.secondOfDay_bounds
  have hlast := (Date.daysInMonth_bounds t.date.year t.date.month).2
  have hmonth := hdate.one_le_month
  have hmonth' := hdate.month_le
  have hday := hdate.one_le_day
  have hday' := hdate.day_le
  have hclock : 0 ≤ t.hour ∧ t.hour < 24 ∧ 0 ≤ t.minute ∧ t.minute < 60 ∧ 0 ≤ t.second ∧
      t.second < 60 := by
    unfold Instant.hour Instant.minute Instant.second
    omega
  have htext : (localText t).toList ++ rest = (padded 4 t.date.year).toList ++
      ((padded 2 t.date.month).toList ++ ((padded 2 t.date.day).toList ++
        ((padded 2 t.hour).toList ++ ((padded 2 t.minute).toList ++
          ((padded 2 t.second).toList ++ rest))))) := by
    simp only [localText, String.toList_append, List.append_assoc]
  have hwhole : @Eq Int
      (Instant.midnight t.date + 3600 * t.hour + 60 * t.minute + t.second) t := by
    have hsplit := t.eq_day_add
    have hdays : t.date.toDays = t.day := Date.toDays_ofDays t.day
    rw [Instant.midnight, hdays, Instant.secondsPerDay]
    unfold Instant.hour Instant.minute Instant.second
    omega
  have hcheck : (Date.mk t.date.year t.date.month t.date.day).check.toOption = some t.date := by
    rw [show Date.mk t.date.year t.date.month t.date.day = t.date from rfl,
      Date.check_of_isReal hdate]
    rfl
  rw [htext, localAhead?]
  simp only [digitsAhead?_four low (show t.date.year < 10000 by omega),
    digitsAhead?_two (show 0 ≤ t.date.month by omega) (show t.date.month < 100 by omega),
    digitsAhead?_two (show 0 ≤ t.date.day by omega) (show t.date.day < 100 by omega),
    digitsAhead?_two hclock.1 (show t.hour < 100 by omega),
    digitsAhead?_two (show 0 ≤ t.minute by omega) (show t.minute < 100 by omega),
    digitsAhead?_two (show 0 ≤ t.second by omega) (show t.second < 100 by omega),
    Option.bind_eq_bind, Option.bind_some, hcheck]
  rw [if_pos (by omega), hwhole]
  rfl

theorem hoursMinutes?_padded {n : Int} (minutes : n % 60 = 0) (low : 0 ≤ n) (high : n < 86400) :
    hoursMinutes? ((padded 2 (n / 3600)).toList ++ (padded 2 (n % 3600 / 60)).toList) =
      some n := by
  have hhours := digitsAhead?_two (show 0 ≤ n / 3600 by omega) (show n / 3600 < 100 by omega)
    (padded 2 (n % 3600 / 60)).toList
  have hminutes := digitsAhead?_two (show 0 ≤ n % 3600 / 60 by omega)
    (show n % 3600 / 60 < 100 by omega) []
  rw [List.append_nil] at hminutes
  have hwhole : 3600 * (n / 3600) + 60 * (n % 3600 / 60) = n := by omega
  simp only [hoursMinutes?, hhours, hminutes, Option.bind_eq_bind, Option.bind_some]
  rw [if_pos ⟨by omega, by omega, trivial⟩, hwhole]
  rfl

theorem offset?_zoneText {zone : Int} (minutes : zone % 60 = 0) (low : -86400 < zone)
    (high : zone < 86400) : offset? (zoneText zone).toList = some zone := by
  have hsize := hoursMinutes?_padded (n := (zone.natAbs : Int)) (by omega) (by omega) (by omega)
  have htext : (zoneText zone).toList = (if zone < 0 then '-' else '+') ::
      ((padded 2 ((zone.natAbs : Int) / 3600)).toList ++
        (padded 2 ((zone.natAbs : Int) % 3600 / 60)).toList) := by
    rw [zoneText, if_pos (show (zone.natAbs : Int) % 60 = 0 by omega)]
    split <;> simp
  rw [htext]
  split
  · have hbehind : -(zone.natAbs : Int) = zone := by omega
    rw [offset?, hsize, Option.map_some, hbehind]
  · have hahead : (zone.natAbs : Int) = zone := by omega
    rw [offset?, hsize, hahead]

/-- A zone that at an instant is whole minutes and less than a day from universal time, and on whose
clocks the instant has a year of four digits. -/
structure IsShown (zone : Zone) (t : Instant) : Prop where
  minutes : zone.offset t % 60 = 0
  low : -86400 < zone.offset t
  high : zone.offset t < 86400
  first : 1000 ≤ (Instant.date (t + zone.offset t)).year
  last : (Instant.date (t + zone.offset t)).year ≤ 9999

/-- A time stamp is read as the instant that it was made from. -/
theorem IsShown.exists_stamp {zone : Zone} {t : Instant} (h : IsShown zone t) :
    ∃ stamp, formatTime zone t = .ok stamp ∧ instant? stamp = some t := by
  obtain ⟨minutes, low, high, first, last⟩ := h
  unfold formatTime
  generalize zone.offset t = offset at minutes low high first last
  have hin : Instant.inCalendar (t + offset) = true :=
    Instant.inCalendar_of_year (by omega) last
  have hlocal := localAhead?_localText (show 0 ≤ (Instant.date (t + offset)).year by omega) last
    (' ' :: (zoneText offset).toList)
  have htext : (localText (t + offset) ++ " " ++ zoneText offset).toList =
      (localText (t + offset)).toList ++ ' ' :: (zoneText offset).toList := by
    simp
  refine ⟨localText (t + offset) ++ " " ++ zoneText offset, ?_, ?_⟩
  · rw [Instant.shift_eq hin]
    rfl
  · have hback : @Eq Int (t + offset - offset) t := Int.add_sub_cancel t offset
    rw [instant?, htext, hlocal]
    simp only [Option.bind_eq_bind, Option.bind_some, List.head?_cons, List.tail_cons, if_true,
      offset?_zoneText minutes low high]
    rw [hback]
    rfl

/-- The time stamps of an instant in two zones, each less what its zone is ahead of universal time,
are that same instant. -/
theorem formatTime_zones {zone other : Zone} {t : Instant} (h : IsShown zone t)
    (h' : IsShown other t) :
    ∃ stamp stamp', formatTime zone t = .ok stamp ∧ formatTime other t = .ok stamp' ∧
      instant? stamp = some t ∧ instant? stamp' = some t := by
  obtain ⟨stamp, hformat, hread⟩ := h.exists_stamp
  obtain ⟨stamp', hformat', hread'⟩ := h'.exists_stamp
  exact ⟨stamp, stamp', hformat, hformat', hread, hread'⟩

/-- Half past midnight on the first of March, where the clocks are behind still on the leap day. -/
theorem formatTime_zones_leapDay :
    IsShown (.fixed (-5400)) 1709253000 ∧ IsShown (.fixed 86340) 1709253000 ∧
      formatTime (.fixed (-5400)) 1709253000 = .ok "20240229230000 -0130" ∧
      formatTime (.fixed 86340) 1709253000 = .ok "20240302002900 +2359" ∧
      instant? "20240229230000 -0130" = some 1709253000 ∧
      instant? "20240302002900 +2359" = some 1709253000 := by
  have h : IsShown (.fixed (-5400)) 1709253000 :=
    ⟨by decide, by decide, by decide, by decide, by decide⟩
  have h' : IsShown (.fixed 86340) 1709253000 :=
    ⟨by decide, by decide, by decide, by decide, by decide⟩
  have hstamp : formatTime (.fixed (-5400)) 1709253000 = .ok "20240229230000 -0130" := by rfl
  have hstamp' : formatTime (.fixed 86340) 1709253000 = .ok "20240302002900 +2359" := by rfl
  obtain ⟨stamp, stamp', hformat, hformat', hread, hread'⟩ := formatTime_zones h h'
  cases hstamp.symm.trans hformat
  cases hstamp'.symm.trans hformat'
  exact ⟨h, h', hstamp, hstamp', hread, hread'⟩

end Xmltv

end BroadcastGuide
