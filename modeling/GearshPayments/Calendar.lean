import Mathlib.Algebra.Group.Int.Defs
import Mathlib.Order.Defs.LinearOrder

/-!
# The calendar

Dates of the proleptic Gregorian calendar and the days they stand for, counted from
1970-01-01.  Years are taken to begin in March, so that a leap day is the last day of its
year; four hundred of them are a cycle of 146097 days.

`toDay_ofDay` says that nothing of a day is lost in its date, and `ofDay_toDay` that a date that
the calendar has is the date of its day.
-/

/-- A date of the calendar. -/
@[ext] structure CivilDate where
  year : ℤ
  month : ℤ
  day : ℤ
deriving DecidableEq, Repr

namespace CivilDate

/-! ## A cycle of four hundred years -/

/-- The year of a day in the cycle: first its century, then its four years. -/
def yearOfCycle (d : ℤ) : ℤ :=
  let century := min (d / 36524) 3
  let dayOfCentury := d - 36524 * century
  100 * century + 4 * (dayOfCentury / 1461) + min (dayOfCentury % 1461 / 365) 3

/-- The days of the cycle before a year. -/
def daysBefore (y : ℤ) : ℤ := 365 * y + y / 4 - y / 100

theorem yearOfCycle_mem {d : ℤ} (h : 0 ≤ d) (hd : d < 146097) :
    0 ≤ yearOfCycle d ∧ yearOfCycle d < 400 := by
  unfold yearOfCycle
  simp only [Int.min_def]
  omega

theorem daysBefore_add {c q r : ℤ} (hq : 0 ≤ q) (hq' : q ≤ 24) (hr : 0 ≤ r) (hr' : r ≤ 3) :
    daysBefore (100 * c + 4 * q + r) = 36524 * c + 1461 * q + 365 * r := by
  have hfour : (100 * c + 4 * q + r) / 4 = 25 * c + q := by omega
  have hhundred : (100 * c + 4 * q + r) / 100 = c := by omega
  rw [daysBefore, hfour, hhundred]
  omega

/-- A day is one of the days of its year. -/
theorem daysBefore_yearOfCycle {d : ℤ} (h : 0 ≤ d) (hd : d < 146097) :
    daysBefore (yearOfCycle d) ≤ d ∧ d ≤ daysBefore (yearOfCycle d) + 365 := by
  unfold yearOfCycle
  simp only [Int.min_def]
  rw [daysBefore_add (by omega) (by omega) (by omega) (by omega)]
  omega

/-! ## Months, from March on -/

/-- The month of a day of the year; March is 0. -/
def monthOfYear (d : ℤ) : ℤ := (5 * d + 2) / 153

/-- The days of the year before a month. -/
def daysBeforeMonth (m : ℤ) : ℤ := (153 * m + 2) / 5

theorem monthOfYear_mem {d : ℤ} (h : 0 ≤ d) (hd : d ≤ 365) :
    0 ≤ monthOfYear d ∧ monthOfYear d ≤ 11 := by
  unfold monthOfYear
  omega

/-- A day is one of the days of its month. -/
theorem daysBeforeMonth_monthOfYear (d : ℤ) :
    daysBeforeMonth (monthOfYear d) ≤ d ∧ d ≤ daysBeforeMonth (monthOfYear d) + 30 := by
  unfold daysBeforeMonth monthOfYear
  omega

/-- The month as the calendar counts it. -/
def calendarMonth (m : ℤ) : ℤ := if m < 10 then m + 3 else m - 9

/-- The month as counted from March on. -/
def marchMonth (month : ℤ) : ℤ := if month ≤ 2 then month + 9 else month - 3

/-- January and February belong to the year that began the March before. -/
def yearCarry (month : ℤ) : ℤ := if month ≤ 2 then 1 else 0

theorem marchMonth_calendarMonth {m : ℤ} (h : 0 ≤ m) (hm : m ≤ 11) :
    marchMonth (calendarMonth m) = m := by
  unfold marchMonth calendarMonth
  omega

theorem calendarMonth_mem {m : ℤ} (h : 0 ≤ m) (hm : m ≤ 11) :
    1 ≤ calendarMonth m ∧ calendarMonth m ≤ 12 := by
  unfold calendarMonth
  omega

/-! ## Dates and days -/

/-- From 0000-03-01 to 1970-01-01. -/
def epoch : ℤ := 719468

/-- The date of a day. -/
def ofDay (n : ℤ) : CivilDate :=
  let z := n + epoch
  let dayOfCycle := z % 146097
  let y := yearOfCycle dayOfCycle
  let dayOfYear := dayOfCycle - daysBefore y
  let m := monthOfYear dayOfYear
  let month := calendarMonth m
  { year := 400 * (z / 146097) + y + yearCarry month
    month
    day := dayOfYear - daysBeforeMonth m + 1 }

/-- The day of a date. -/
def toDay (d : CivilDate) : ℤ :=
  let y := d.year - yearCarry d.month
  146097 * (y / 400) + daysBefore (y % 400) + daysBeforeMonth (marchMonth d.month) + (d.day - 1) -
    epoch

/-- The day within the cycle is one of its days, and so is the day within its year. -/
theorem dayOfCycle_mem (n : ℤ) :
    let d := (n + epoch) % 146097
    (0 ≤ d ∧ d < 146097) ∧ (0 ≤ yearOfCycle d ∧ yearOfCycle d < 400) ∧
      0 ≤ d - daysBefore (yearOfCycle d) ∧ d - daysBefore (yearOfCycle d) ≤ 365 := by
  intro d
  have hlow : 0 ≤ d := Int.emod_nonneg _ (by decide)
  have hhigh : d < 146097 := Int.emod_lt_of_pos _ (by decide)
  obtain ⟨hd, hd'⟩ := daysBefore_yearOfCycle hlow hhigh
  refine ⟨⟨hlow, hhigh⟩, yearOfCycle_mem hlow hhigh, ?_, ?_⟩
  · omega
  · omega

theorem toDay_ofDay (n : ℤ) : (ofDay n).toDay = n := by
  obtain ⟨⟨hlow, hhigh⟩, ⟨hy, hy'⟩, hd, hd'⟩ := dayOfCycle_mem n
  obtain ⟨hm, hm'⟩ := monthOfYear_mem hd hd'
  simp only [toDay, ofDay, add_sub_cancel_right, marchMonth_calendarMonth hm hm']
  have hera : (400 * ((n + epoch) / 146097) + yearOfCycle ((n + epoch) % 146097)) / 400 =
      (n + epoch) / 146097 := by omega
  have hyear : (400 * ((n + epoch) / 146097) + yearOfCycle ((n + epoch) % 146097)) % 400 =
      yearOfCycle ((n + epoch) % 146097) := by omega
  rw [hera, hyear]
  omega

/-- Different days have different dates. -/
theorem ofDay_injective : Function.Injective ofDay :=
  Function.LeftInverse.injective toDay_ofDay

theorem month_ofDay (n : ℤ) : 1 ≤ (ofDay n).month ∧ (ofDay n).month ≤ 12 := by
  obtain ⟨-, -, hd, hd'⟩ := dayOfCycle_mem n
  obtain ⟨hm, hm'⟩ := monthOfYear_mem hd hd'
  exact calendarMonth_mem hm hm'

theorem day_ofDay (n : ℤ) : 1 ≤ (ofDay n).day ∧ (ofDay n).day ≤ 31 := by
  obtain ⟨hm, hm'⟩ := daysBeforeMonth_monthOfYear
    ((n + epoch) % 146097 - daysBefore (yearOfCycle ((n + epoch) % 146097)))
  simp only [ofDay]
  omega

/-- The year is one of the years of its cycle. -/
theorem year_ofDay (n : ℤ) : 400 * ((n + epoch) / 146097) ≤ (ofDay n).year ∧
    (ofDay n).year ≤ 400 * ((n + epoch) / 146097) + 400 := by
  obtain ⟨-, ⟨hy, hy'⟩, -, -⟩ := dayOfCycle_mem n
  simp only [ofDay, yearCarry]
  split
  · omega
  · omega

/-! ## The dates that the calendar has -/

/-- The year has a 29 February. -/
def IsLeap (y : ℤ) : Prop := y % 4 = 0 ∧ (y % 100 ≠ 0 ∨ y % 400 = 0)

instance (y : ℤ) : Decidable (IsLeap y) := inferInstanceAs (Decidable (_ ∧ _))

def daysInMonth (year month : ℤ) : ℤ :=
  if month = 2 then if IsLeap year then 29 else 28
  else if month = 4 ∨ month = 6 ∨ month = 9 ∨ month = 11 then 30
  else 31

/-- The date is one of the calendar. -/
structure Valid (d : CivilDate) : Prop where
  month : 1 ≤ d.month ∧ d.month ≤ 12
  day : 1 ≤ d.day ∧ d.day ≤ daysInMonth d.year d.month

instance (d : CivilDate) : Decidable d.Valid :=
  decidable_of_iff ((1 ≤ d.month ∧ d.month ≤ 12) ∧ 1 ≤ d.day ∧ d.day ≤ daysInMonth d.year d.month)
    ⟨fun h ↦ ⟨h.1, h.2⟩, fun h ↦ ⟨h.month, h.day⟩⟩

/-- A year of the cycle by its century and its four years.  It comes before a leap year if it is the
last of its four years and, unless it is the last of the cycle, not of its century. -/
theorem isLeap_add_one_iff {c q s : ℤ} (hc : 0 ≤ c) (hc' : c ≤ 3) (hq : 0 ≤ q) (hq' : q ≤ 24)
    (hs : 0 ≤ s) (hs' : s ≤ 3) :
    IsLeap (100 * c + 4 * q + s + 1) ↔ s = 3 ∧ (q = 24 → c = 3) := by
  unfold IsLeap
  omega

/-- A day of a year of the cycle.  Only a year before a leap year has 366 days. -/
theorem yearOfCycle_daysBefore {y r : ℤ} (hy : 0 ≤ y) (hy' : y < 400) (hr : 0 ≤ r)
    (hr' : r ≤ 365) (hleap : r = 365 → IsLeap (y + 1)) : yearOfCycle (daysBefore y + r) = y := by
  obtain ⟨c, q, s, rfl, ⟨hc, hc'⟩, ⟨hq, hq'⟩, hs, hs'⟩ : ∃ c q s, y = 100 * c + 4 * q + s ∧
      (0 ≤ c ∧ c ≤ 3) ∧ (0 ≤ q ∧ q ≤ 24) ∧ 0 ≤ s ∧ s ≤ 3 :=
    ⟨y / 100, y % 100 / 4, y % 4, by omega, by omega, by omega, by omega⟩
  rw [isLeap_add_one_iff hc hc' hq hq' hs hs'] at hleap
  rw [daysBefore_add hq hq' hs hs']
  have hcentury : min ((36524 * c + 1461 * q + 365 * s + r) / 36524) 3 = c := by
    rw [Int.min_def]
    omega
  have hfour : (36524 * c + 1461 * q + 365 * s + r - 36524 * c) / 1461 = q := by omega
  have hyear : min ((36524 * c + 1461 * q + 365 * s + r - 36524 * c) % 1461 / 365) 3 = s := by
    rw [Int.min_def]
    omega
  simp only [yearOfCycle, hcentury, hfour, hyear]

/-- The last of 366 days is one of a year before a leap year. -/
theorem isLeap_of_dayOfYear {d : ℤ} (h : 0 ≤ d) (hd : d < 146097)
    (hlast : d - daysBefore (yearOfCycle d) = 365) : IsLeap (yearOfCycle d + 1) := by
  have hcentury : 0 ≤ min (d / 36524) 3 ∧ min (d / 36524) 3 ≤ 3 ∧
      (min (d / 36524) 3 = 3 ∨ d - 36524 * min (d / 36524) 3 < 36524) ∧
      0 ≤ d - 36524 * min (d / 36524) 3 ∧ d - 36524 * min (d / 36524) 3 < 36525 := by
    rw [Int.min_def]
    omega
  unfold yearOfCycle at *
  dsimp only at *
  generalize min (d / 36524) 3 = c at *
  obtain ⟨hc, hc', hfull, he, he'⟩ := hcentury
  have hyear : 0 ≤ min ((d - 36524 * c) % 1461 / 365) 3 ∧
      min ((d - 36524 * c) % 1461 / 365) 3 ≤ 3 ∧
      ((d - 36524 * c) % 1461 - 365 * min ((d - 36524 * c) % 1461 / 365) 3 = 365 →
        (d - 36524 * c) % 1461 = 1460 ∧ min ((d - 36524 * c) % 1461 / 365) 3 = 3) := by
    rw [Int.min_def]
    omega
  generalize min ((d - 36524 * c) % 1461 / 365) 3 = s at *
  obtain ⟨hs, hs', hend⟩ := hyear
  rw [daysBefore_add (by omega) (by omega) hs hs'] at hlast
  refine (isLeap_add_one_iff hc hc' (by omega) (by omega) hs hs').mpr ?_
  omega

/-- The months from March on have 30 days at least, and these have 31. -/
theorem le_daysBeforeMonth_add_one (m : ℤ) :
    daysBeforeMonth m + 30 ≤ daysBeforeMonth (m + 1) ∧
      ((m = 0 ∨ m = 2 ∨ m = 4 ∨ m = 5 ∨ m = 7 ∨ m = 9 ∨ m = 10) →
        daysBeforeMonth m + 31 ≤ daysBeforeMonth (m + 1)) := by
  constructor
  · unfold daysBeforeMonth
    omega
  · rintro (rfl | rfl | rfl | rfl | rfl | rfl | rfl) <;> decide

/-- February comes last, and is taken to be long enough. -/
theorem daysInMonth_le (year : ℤ) {month : ℤ} (h : 1 ≤ month) (h' : month ≤ 12) :
    daysInMonth year month ≤
      daysBeforeMonth (marchMonth month + 1) - daysBeforeMonth (marchMonth month) := by
  obtain ⟨hshort, hlong⟩ := le_daysBeforeMonth_add_one (marchMonth month)
  unfold daysInMonth
  by_cases hfeb : month = 2
  · rw [if_pos hfeb]
    split
    · omega
    · omega
  · rw [if_neg hfeb]
    split
    · omega
    · have hle := hlong (by unfold marchMonth; omega)
      omega

theorem monthOfYear_daysBeforeMonth {m k : ℤ} (hk : 0 ≤ k)
    (hk' : k < daysBeforeMonth (m + 1) - daysBeforeMonth m) :
    monthOfYear (daysBeforeMonth m + k) = m := by
  unfold monthOfYear
  unfold daysBeforeMonth at *
  omega

theorem calendarMonth_marchMonth {month : ℤ} (h : 1 ≤ month) (h' : month ≤ 12) :
    calendarMonth (marchMonth month) = month := by
  unfold calendarMonth marchMonth
  omega

/-- The day of a valid date within its year. -/
theorem Valid.dayOfYear {d : CivilDate} (h : d.Valid) :
    0 ≤ daysBeforeMonth (marchMonth d.month) + (d.day - 1) ∧
      daysBeforeMonth (marchMonth d.month) + (d.day - 1) ≤ 365 ∧
      (daysBeforeMonth (marchMonth d.month) + (d.day - 1) = 365 →
        IsLeap (d.year - yearCarry d.month + 1)) := by
  obtain ⟨⟨hm, hm'⟩, hd, hd'⟩ := h
  unfold daysInMonth at hd'
  unfold daysBeforeMonth marchMonth yearCarry
  by_cases hfeb : d.month = 2
  · rw [if_pos hfeb] at hd'
    rw [hfeb]
    split at hd'
    · next hleap => exact ⟨by omega, by omega, fun _ ↦ by rwa [if_pos (by decide), sub_add_cancel]⟩
    · exact ⟨by omega, by omega, fun _ ↦ by omega⟩
  · rw [if_neg hfeb] at hd'
    split at hd'
    · exact ⟨by omega, by omega, fun _ ↦ by omega⟩
    · exact ⟨by omega, by omega, fun _ ↦ by omega⟩

/-- Leap years recur with the cycle. -/
theorem isLeap_emod_add_one (y : ℤ) : IsLeap (y % 400 + 1) ↔ IsLeap (y + 1) := by
  unfold IsLeap
  omega

/-- A date that the calendar has is the date of its day. -/
theorem ofDay_toDay {d : CivilDate} (h : d.Valid) : ofDay d.toDay = d := by
  obtain ⟨hm, hm'⟩ := h.month
  obtain ⟨hr, hr', hleap⟩ := h.dayOfYear
  have hlength := daysInMonth_le d.year hm hm'
  obtain ⟨hday, hday'⟩ := h.day
  have hmonth : monthOfYear (daysBeforeMonth (marchMonth d.month) + (d.day - 1)) =
      marchMonth d.month := monthOfYear_daysBeforeMonth (by omega) (by omega)
  generalize hdayOfYear : daysBeforeMonth (marchMonth d.month) + (d.day - 1) = r at *
  have hyear : d.year - yearCarry d.month + yearCarry d.month = d.year := sub_add_cancel _ _
  have htoDay : d.toDay + epoch = 146097 * ((d.year - yearCarry d.month) / 400) +
      (daysBefore ((d.year - yearCarry d.month) % 400) + r) := by
    rw [toDay]
    omega
  generalize d.year - yearCarry d.month = y at *
  have hcycle : yearOfCycle (daysBefore (y % 400) + r) = y % 400 := by
    refine yearOfCycle_daysBefore (by omega) (by omega) hr hr' fun hlast ↦ ?_
    exact (isLeap_emod_add_one _).mpr (hleap hlast)
  have hbefore : 0 ≤ daysBefore (y % 400) ∧ daysBefore (y % 400) ≤ 145731 := by
    unfold daysBefore
    omega
  have hera : (d.toDay + epoch) / 146097 = y / 400 := by omega
  have hdayOfCycle : (d.toDay + epoch) % 146097 = daysBefore (y % 400) + r := by omega
  have hdayOfYear' : daysBefore (y % 400) + r - daysBefore (y % 400) = r := by omega
  simp only [ofDay, hera, hdayOfCycle, hcycle, hdayOfYear', hmonth,
    calendarMonth_marchMonth hm hm']
  refine CivilDate.ext ?_ rfl ?_
  · show 400 * (y / 400) + y % 400 + yearCarry d.month = d.year
    omega
  · show r - daysBeforeMonth (marchMonth d.month) + 1 = d.day
    omega

/-- April, June, September and November have 30 days. -/
theorem daysBeforeMonth_add_one_of_short {m : ℤ} (h : m = 1 ∨ m = 3 ∨ m = 6 ∨ m = 8) :
    daysBeforeMonth (m + 1) = daysBeforeMonth m + 30 := by
  rcases h with rfl | rfl | rfl | rfl <;> decide

/-- Every day has a date that the calendar has. -/
theorem valid_ofDay (n : ℤ) : (ofDay n).Valid := by
  refine ⟨month_ofDay n, (day_ofDay n).1, ?_⟩
  have hday := (day_ofDay n).2
  obtain ⟨⟨hlow, hhigh⟩, -, hd, hd'⟩ := dayOfCycle_mem n
  have hlast := isLeap_of_dayOfYear hlow hhigh
  revert hday
  simp only [ofDay]
  generalize (n + epoch) % 146097 = d at *
  generalize hdayOfYear : d - daysBefore (yearOfCycle d) = r at *
  obtain ⟨hm, hm'⟩ := monthOfYear_mem hd hd'
  have hnext : r < daysBeforeMonth (monthOfYear r + 1) := by
    unfold daysBeforeMonth monthOfYear
    omega
  generalize monthOfYear r = m at *
  intro hday
  unfold daysInMonth
  by_cases hfeb : calendarMonth m = 2
  · have hm11 : m = 11 := by
      unfold calendarMonth at hfeb
      omega
    have hbefore : daysBeforeMonth m = 337 := by
      rw [hm11]
      rfl
    rw [if_pos hfeb, hfeb, hbefore]
    split
    · omega
    · next hcommon =>
        have hshort : r ≠ 365 := by
          intro hr
          have hleap := hlast hr
          refine hcommon ?_
          unfold IsLeap at *
          unfold yearCarry
          omega
        omega
  · rw [if_neg hfeb]
    split
    · next hshort =>
        have hlength := daysBeforeMonth_add_one_of_short (m := m) (by
          unfold calendarMonth at hshort
          omega)
        omega
    · exact hday

example : ofDay 0 = ⟨1970, 1, 1⟩ := by decide

example : (⟨2024, 2, 29⟩ : CivilDate).toDay = 19782 := by decide

end CivilDate
