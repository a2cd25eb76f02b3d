import CrashTriage.Calendar.Month

/-!
# Dates

A date is a day of the calendar's range, which runs from 1 January of year -262143 to 31 December
of year 262142. Arithmetic on dates is arithmetic on day numbers and has no answer outside the
range.
-/

namespace CrashTriage

open Calendar

/-- The first day of the calendar's range. -/
def firstDay : Int := yearStart (-262143)

/-- The last day of the calendar's range. -/
def lastDay : Int := yearStart 262143 - 1

/-- A day of the calendar's range, by its number counted from 1 January of year 0. -/
structure Date where
  /-- The number of the day. -/
  day : Int
  firstDay_le : firstDay ≤ day
  le_lastDay : day ≤ lastDay
deriving DecidableEq

namespace Date

/-- The date with a given day number, if the range holds it. -/
def ofDay? (day : Int) : Option Date :=
  if h : firstDay ≤ day ∧ day ≤ lastDay then some ⟨day, h.1, h.2⟩ else none

/-- The date `n` days later, if the range holds it. -/
def addDays? (date : Date) (n : Int) : Option Date :=
  ofDay? (date.day + n)

/-- The month that holds the date, counted from January of year 0. -/
def monthIndex (date : Date) : Int := monthOfDay date.day

/-- The year of the date. -/
def year (date : Date) : Int := date.monthIndex / 12

/-- The month of the date's year, from 1 to 12. -/
def month (date : Date) : Int := date.monthIndex % 12 + 1

/-- The day of the date's month, from 1. -/
def dayOfMonth (date : Date) : Int := date.day - monthStart date.monthIndex + 1

/-- The day of the week, from 0 for Monday to 6 for Sunday: year 0 begins on a Saturday. -/
def weekday (date : Date) : Int := (date.day + 5) % 7

/-- The date with a given year, month and day of the month, if there is such a date. -/
def ofYearMonthDay? (year month day : Int) : Option Date :=
  let start := monthStart (12 * year + month - 1)
  let next := monthStart (12 * year + month)
  if 1 ≤ month ∧ month ≤ 12 ∧ 1 ≤ day ∧ start + day ≤ next then ofDay? (start + day - 1) else none

instance : LE Date := ⟨fun a b => a.day ≤ b.day⟩

instance : LT Date := ⟨fun a b => a.day < b.day⟩

instance (a b : Date) : Decidable (a ≤ b) := inferInstanceAs (Decidable (a.day ≤ b.day))

instance (a b : Date) : Decidable (a < b) := inferInstanceAs (Decidable (a.day < b.day))

theorem le_def {a b : Date} : a ≤ b ↔ a.day ≤ b.day := Iff.rfl

theorem lt_def {a b : Date} : a < b ↔ a.day < b.day := Iff.rfl

theorem eq_of_day_eq {a b : Date} (h : a.day = b.day) : a = b := by
  cases a; cases b; simp_all

@[simp] theorem ofDay?_day (date : Date) : ofDay? date.day = some date := by
  simp [ofDay?, date.firstDay_le, date.le_lastDay]

theorem ofDay?_eq_some_iff {day : Int} {date : Date} : ofDay? day = some date ↔ date.day = day := by
  constructor
  · intro h
    simp only [ofDay?] at h
    split at h
    · cases h; rfl
    · cases h
  · rintro rfl; exact ofDay?_day date

theorem ofDay?_eq_none_iff {day : Int} : ofDay? day = none ↔ day < firstDay ∨ lastDay < day := by
  simp only [ofDay?]
  split <;> simp <;> omega

/-- Every date is the one its year, month and day of the month name. -/
theorem ofYearMonthDay?_eq_self (date : Date) :
    ofYearMonthDay? date.year date.month date.dayOfMonth = some date := by
  have low := monthStart_monthOfDay_le date.day
  have high := day_lt_monthStart_succ date.day
  have next : 12 * date.year + date.month = monthOfDay date.day + 1 := by
    simp only [year, month, monthIndex]; omega
  have range : 1 ≤ date.month ∧ date.month ≤ 12 := by simp only [month]; omega
  have first : 1 ≤ date.dayOfMonth := by simp only [dayOfMonth, monthIndex]; omega
  simp only [ofYearMonthDay?, next, Int.add_sub_cancel]
  rw [if_pos ⟨range.1, range.2, first, by simp only [dayOfMonth, monthIndex]; omega⟩]
  exact ofDay?_eq_some_iff.2 (by simp only [dayOfMonth, monthIndex]; omega)

end Date

end CrashTriage
