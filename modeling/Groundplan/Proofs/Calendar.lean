import Groundplan.Calendar
import Mathlib.Tactic.IntervalCases

/-!
# Days and months of the calendar

Dates are compared field by field, and so are months that are counted through the years. The day
before a date is the one whose number is one less, whatever the lengths of the month before and of
the year.

## Main definitions

* `Date.Valid`: a date that the calendar has
* `Date.monthNumber`: the months counted through the years; `daysOfMonth`, how long each of them is

## Main results

* `valid_iff_checked`: the check of a date decides whether the calendar has it
* `before_iff`: the order of dates
* `before_iff_of_first`: before the first day of a month there are the months before
* `toDays_dayBefore`: **the day before has the number before**
-/

namespace Groundplan

/-- A date that the calendar has. -/
structure Date.Valid (d : Date) : Prop where
  one_le_year : 1 ≤ d.year
  year_le : d.year ≤ 9999
  one_le_month : 1 ≤ d.month
  month_le : d.month ≤ 12
  one_le_day : 1 ≤ d.day
  day_le : d.day ≤ daysInMonth d.year d.month

theorem valid_iff_checked {d : Date} : d.Valid ↔ d.checked = .ok d := by
  rw [Date.checked]
  constructor
  · intro h
    have := h.one_le_year
    have := h.year_le
    have := h.one_le_month
    have := h.month_le
    have := h.one_le_day
    have := h.day_le
    rw [if_neg (by omega), if_neg (by omega), if_neg (by omega)]
  · intro h
    split at h
    · cases h
    · split at h
      · cases h
      · split at h
        · cases h
        · constructor <;> omega

theorem one_le_daysInMonth (year month : Nat) : 1 ≤ daysInMonth year month := by
  rw [daysInMonth]
  split
  · split <;> decide
  · split <;> decide

/-! ## Order -/

theorem before_iff {a b : Date} : a.before b = true ↔
    a.year < b.year ∨ (a.year = b.year ∧
      (a.month < b.month ∨ (a.month = b.month ∧ a.day < b.day))) := by
  simp [Date.before]

/-- The months counted through the years. -/
def Date.monthNumber (d : Date) : Nat :=
  12 * d.year + d.month

/-- The number of days of a month that is counted through the years. -/
def daysOfMonth (n : Nat) : Nat :=
  daysInMonth ((n - 1) / 12) ((n - 1) % 12 + 1)

theorem daysOfMonth_monthNumber {d : Date} (hpos : 1 ≤ d.month) (hle : d.month ≤ 12) :
    daysOfMonth d.monthNumber = daysInMonth d.year d.month := by
  have hyear : (12 * d.year + d.month - 1) / 12 = d.year := by omega
  have hmonth : (12 * d.year + d.month - 1) % 12 + 1 = d.month := by omega
  rw [daysOfMonth, Date.monthNumber, hyear, hmonth]

/-- **Before the first day of a month** there are exactly the days of the months before it. -/
theorem before_iff_of_first {d first : Date} (h : first.day = 1) (hfirst : first.Valid)
    (hd : d.Valid) : d.before first = true ↔ d.monthNumber < first.monthNumber := by
  have := hfirst.one_le_month
  have := hfirst.month_le
  have := hd.one_le_month
  have := hd.month_le
  have := hd.one_le_day
  rw [before_iff, Date.monthNumber, Date.monthNumber]
  omega

/-! ## Numbers of days -/

/-- The days before a year that begins in March, counted over eras of 400 years. -/
def daysBeforeYear (y : Int) : Int :=
  y / 400 * 146097 + (y - y / 400 * 400) * 365 + (y - y / 400 * 400) / 4 -
    (y - y / 400 * 400) / 100

/-- **A year has 365 days**, or 366 if the February at its end is that of a leap year. -/
theorem daysBeforeYear_succ (year : Nat) : daysBeforeYear year =
    daysBeforeYear ((year : Int) - 1) + if isLeapYear year then 366 else 365 := by
  have hleap : isLeapYear year = true ↔
      (year % 4 = 0 ∧ year % 100 ≠ 0) ∨ year % 400 = 0 := by simp [isLeapYear]
  simp only [daysBeforeYear, hleap]
  split <;> omega

theorem toDays_eq (d : Date) : d.toDays =
    daysBeforeYear (if d.month ≤ 2 then (d.year : Int) - 1 else d.year) +
      (153 * (((d.month : Int) + 9) % 12) + 2) / 5 + d.day - 1 - 719468 := by
  simp only [Date.toDays, daysBeforeYear]
  omega

/-- Within a month the numbers go up with the days. -/
theorem toDays_mk (year month day : Nat) :
    (Date.mk year month day).toDays = (Date.mk year month 1).toDays + day - 1 := by
  rw [toDays_eq, toDays_eq]
  dsimp only
  omega

/-- The first day of a month comes right behind the last day of the month before. -/
theorem toDays_first {year month : Nat} (hpos : 1 < month) (hle : month ≤ 12) :
    (Date.mk year month 1).toDays =
      (Date.mk year (month - 1) 1).toDays + daysInMonth year (month - 1) := by
  rw [toDays_eq, toDays_eq]
  obtain rfl | rfl | hlater : month = 2 ∨ month = 3 ∨ 4 ≤ month := by omega
  · norm_num [daysInMonth]
    omega
  · -- The years of the count begin in March, so the February before ends one of them.
    have hyear := daysBeforeYear_succ year
    cases hleap : isLeapYear year <;> simp [daysInMonth, hleap] at hyear ⊢ <;> omega
  · interval_cases month <;> norm_num [daysInMonth] <;> omega

/-- **The day before has the number before.** -/
theorem toDays_dayBefore {d : Date} (h : d.Valid) : d.dayBefore.toDays = d.toDays - 1 := by
  obtain ⟨year, month, day⟩ := d
  have hyear : 1 ≤ year := h.one_le_year
  have hmonth : 1 ≤ month := h.one_le_month
  have hmonth' : month ≤ 12 := h.month_le
  have hday : 1 ≤ day := h.one_le_day
  simp only [Date.dayBefore]
  split
  · rw [toDays_mk, toDays_mk year month day]
    omega
  · obtain rfl : day = 1 := by omega
    split
    · rename_i hlater
      rw [toDays_mk, toDays_first hlater hmonth']
    · -- The last day of the year before, in the same year of the count.
      obtain rfl : month = 1 := by omega
      rw [toDays_eq, toDays_eq]
      have hcast : ((year - 1 : Nat) : Int) = (year : Int) - 1 := by omega
      norm_num [hcast]
      omega

end Groundplan
