import CrashTriage.Calendar.Date
import Mathlib.Tactic.Lemma

/-!
# The order of dates by months

A date is known by the number of its month on the line of months and by the day of that month, and
dates are ordered by the one and then by the other. A date that is the first of its month comes on
or before another date exactly when its month does not come after the month of the other.
-/

namespace CrashTriage.Date

open Calendar

/-- Later dates lie in later months. -/
lemma monthIndex_le_of_le {a b : Date} (h : a ≤ b) : a.monthIndex ≤ b.monthIndex :=
  monthStart_le_iff.1 (Int.le_trans (monthStart_monthOfDay_le a.day) h)

/-- Later dates lie in later years. -/
lemma year_le_of_le {a b : Date} (h : a ≤ b) : a.year ≤ b.year := by
  have months := monthIndex_le_of_le h
  unfold year
  omega

lemma month_bounds (date : Date) : 1 ≤ date.month ∧ date.month ≤ 12 := by
  unfold month
  omega

lemma dayOfMonth_bounds (date : Date) : 1 ≤ date.dayOfMonth ∧ date.dayOfMonth ≤ 31 := by
  have low := monthStart_monthOfDay_le date.day
  have high := day_lt_monthStart_succ date.day
  have span := monthStart_succ_bounds (monthOfDay date.day)
  unfold dayOfMonth monthIndex
  omega

/-- The month of a date by its year and the month of that year. -/
lemma monthIndex_eq (date : Date) : date.monthIndex = 12 * date.year + date.month - 1 := by
  unfold year month
  omega

/-- Dates lie in the same month when they agree in the year and the month of that year. -/
lemma monthIndex_eq_iff {a b : Date} :
    a.monthIndex = b.monthIndex ↔ a.year = b.year ∧ a.month = b.month := by
  have first := month_bounds a
  have second := month_bounds b
  rw [monthIndex_eq, monthIndex_eq]
  omega

/-- The number of a date's day by its month and the day of that month. -/
lemma day_eq (date : Date) : date.day = monthStart date.monthIndex + date.dayOfMonth - 1 := by
  unfold dayOfMonth
  omega

/-- Dates are ordered by their months and, within a month, by its days. -/
lemma lt_iff_monthIndex {a b : Date} :
    a < b ↔ a.monthIndex < b.monthIndex ∨
      (a.monthIndex = b.monthIndex ∧ a.dayOfMonth < b.dayOfMonth) := by
  rw [lt_def]
  rcases Int.lt_trichotomy a.monthIndex b.monthIndex with before | same | after
  · have next := monthStart_le_monthStart_iff.2 (Int.add_one_le_of_lt before)
    have high := day_lt_monthStart_succ a.day
    have low := monthStart_monthOfDay_le b.day
    unfold monthIndex at *
    omega
  · rw [day_eq a, day_eq b, same]
    omega
  · have next := monthStart_le_monthStart_iff.2 (Int.add_one_le_of_lt after)
    have high := day_lt_monthStart_succ b.day
    have low := monthStart_monthOfDay_le a.day
    unfold monthIndex at *
    omega

/-- The first of a month is on or before a date exactly when the month is not after the date's. -/
lemma le_iff_of_dayOfMonth_eq_one {first date : Date} (h : first.dayOfMonth = 1) :
    first ≤ date ↔ first.monthIndex ≤ date.monthIndex := by
  have start : first.day = monthStart first.monthIndex := by
    rw [day_eq first, h]
    omega
  rw [le_def, start]
  exact monthStart_le_iff

/-- The first of a date's month is the day of that month with number 1. -/
lemma addDays?_first_eq_some_iff {date first : Date} :
    date.addDays? (1 - date.dayOfMonth) = some first ↔
      first.dayOfMonth = 1 ∧ first.monthIndex = date.monthIndex := by
  unfold addDays?
  rw [ofDay?_eq_some_iff]
  have begins := day_eq date
  constructor
  · intro h
    have start : first.day = monthStart date.monthIndex := by omega
    have index : first.monthIndex = date.monthIndex := by
      unfold monthIndex
      rw [start]
      exact monthOfDay_monthStart _
    refine ⟨?_, index⟩
    unfold dayOfMonth
    rw [index]
    omega
  · rintro ⟨one, index⟩
    have start := day_eq first
    rw [index, one] at start
    omega

end CrashTriage.Date
