import CrashTriage.Granularity
import CrashTriage.Proofs.CalendarOrder

/-!
# Where buckets start

A day starts on every date and a month on a date of the calendar's range whenever it holds one, but
the Monday of a week may lie before the first day of the range. Main statement: the bucket of a date
starts on the last boundary that is not after the date, so a boundary is on or before the date
exactly when it is on or before the start of the date's bucket.
-/

namespace CrashTriage.Granularity

open Calendar

/-- A day starts on itself. -/
lemma bucketStart?_daily (date : Date) : daily.bucketStart? date = some date := rfl

/-- The calendar's range begins with a month. -/
lemma monthStart_firstMonth : monthStart (12 * -262143) = firstDay := by decide

/-- The month of a date begins inside the calendar's range. -/
lemma firstDay_le_monthStart (date : Date) : firstDay ≤ monthStart date.monthIndex := by
  rw [← monthStart_firstMonth, monthStart_le_monthStart_iff]
  refine monthStart_le_iff.1 ?_
  rw [monthStart_firstMonth]
  exact date.firstDay_le

/-- Every date lies in a month whose first day is a date. -/
lemma exists_bucketStart?_monthly (date : Date) :
    ∃ start, monthly.bucketStart? date = some start := by
  have low := firstDay_le_monthStart date
  have high := monthStart_monthOfDay_le date.day
  have inside : date.day + (1 - date.dayOfMonth) = monthStart date.monthIndex := by
    unfold Date.dayOfMonth
    omega
  refine ⟨⟨monthStart date.monthIndex, low, Int.le_trans high date.le_lastDay⟩, ?_⟩
  unfold bucketStart? Date.addDays?
  rw [inside]
  exact Date.ofDay?_eq_some_iff.2 rfl

/-- The bucket of a date's week starts on the Monday of that week, if it is a date. -/
lemma bucketStart?_weekly_eq_some_iff {date monday : Date} :
    weekly.bucketStart? date = some monday ↔
      monday.weekday = 0 ∧ monday ≤ date ∧ date.day < monday.day + 7 := by
  unfold bucketStart? Date.addDays?
  rw [Date.ofDay?_eq_some_iff, Date.le_def]
  unfold Date.weekday
  constructor
  · intro h
    omega
  · rintro ⟨begins, before, within⟩
    omega

/-- The bucket of a date's month starts on the first of that month. -/
lemma bucketStart?_monthly_eq_some_iff {date start : Date} :
    monthly.bucketStart? date = some start ↔
      start.dayOfMonth = 1 ∧ start.monthIndex = date.monthIndex :=
  Date.addDays?_first_eq_some_iff

variable {granularity : Granularity} {date start boundary : Date}

/-- A bucket starts on a boundary. -/
lemma isBoundary_of_bucketStart? (h : granularity.bucketStart? date = some start) :
    granularity.IsBoundary start := by
  cases granularity with
  | daily => trivial
  | weekly => exact (bucketStart?_weekly_eq_some_iff.1 h).1
  | monthly => exact (bucketStart?_monthly_eq_some_iff.1 h).1

/-- A boundary is on or before a date exactly when the date's bucket does not start earlier. -/
lemma boundary_le_iff (h : granularity.bucketStart? date = some start)
    (bounds : granularity.IsBoundary boundary) : boundary ≤ date ↔ boundary ≤ start := by
  cases granularity with
  | daily =>
    rw [bucketStart?_daily, Option.some.injEq] at h
    rw [h]
  | weekly =>
    obtain ⟨begins, before, within⟩ := bucketStart?_weekly_eq_some_iff.1 h
    have monday : boundary.weekday = 0 := bounds
    rw [Date.le_def] at before ⊢
    rw [Date.le_def]
    unfold Date.weekday at begins monday
    omega
  | monthly =>
    obtain ⟨-, index⟩ := bucketStart?_monthly_eq_some_iff.1 h
    have first : boundary.dayOfMonth = 1 := bounds
    rw [Date.le_iff_of_dayOfMonth_eq_one first, Date.le_iff_of_dayOfMonth_eq_one first, index]

/-- The bucket of a date does not start after it. -/
lemma bucketStart?_le (h : granularity.bucketStart? date = some start) : start ≤ date :=
  (boundary_le_iff h (isBoundary_of_bucketStart? h)).2 (Int.le_refl start.day)

end CrashTriage.Granularity
