import CrashTriage.Calendar.Observation
import CrashTriage.Proofs.BucketStart

/-!
# The months of observation

The months that long-term ranking averages over: those that begin on the first occurrence or later
and up to the month before the current one. Main statement: their number is what
`Date.observedMonths` computes, and it is positive for a problem that first occurred in time.
-/

namespace CrashTriage.Date

open Calendar

/-- The last month of observation is the one before the month of today. -/
lemma of_firstOfPreviousMonth?_eq_some {today last : Date}
    (h : today.firstOfPreviousMonth? = some last) :
    last.dayOfMonth = 1 ∧ last.monthIndex = today.monthIndex - 1 := by
  unfold firstOfPreviousMonth? at h
  simp only [Option.bind_eq_bind, Option.bind_eq_some_iff] at h
  obtain ⟨first, this, eve, before, begins⟩ := h
  obtain ⟨one, index⟩ := addDays?_first_eq_some_iff.1 this
  obtain ⟨last_one, last_index⟩ := addDays?_first_eq_some_iff.1 begins
  refine ⟨last_one, last_index.trans ?_⟩
  -- the eve of a month lies in the month before
  have eve_day : eve.day = first.day + -1 := ofDay?_eq_some_iff.1 before
  have start := day_eq first
  rw [index, one] at start
  have previous := monthStart_strictMono (Int.sub_one_lt_of_le (Int.le_refl today.monthIndex))
  have low : today.monthIndex - 1 ≤ eve.monthIndex := by
    unfold monthIndex at start previous ⊢
    rw [← monthStart_le_iff]
    omega
  have high : eve.monthIndex < today.monthIndex := by
    rw [← Int.not_le]
    intro after
    have := monthStart_le_iff.2 after
    omega
  omega

/-- When the day before the first of this month is a date, the month before has a first. -/
lemma exists_firstOfPreviousMonth?_of_eve {today first eve : Date}
    (begins : today.firstOfMonth? = some first) (before : first.addDays? (-1) = some eve) :
    ∃ last, today.firstOfPreviousMonth? = some last := by
  obtain ⟨last, previous⟩ := Granularity.exists_bucketStart?_monthly eve
  refine ⟨last, ?_⟩
  unfold firstOfPreviousMonth?
  rw [begins]
  change (first.addDays? (-1)).bind firstOfMonth? = some last
  rw [before]
  exact previous

/-- The number of observed months on the line of months: from the month of the first occurrence to
the last one, without the first of them when it is observed in part. -/
lemma observedMonths_eq (last first : Date) :
    last.observedMonths first =
      last.monthIndex - first.monthIndex + (if first.dayOfMonth = 1 then 1 else 0) := by
  have lastIndex := monthIndex_eq last
  have firstIndex := monthIndex_eq first
  unfold observedMonths
  by_cases years : last.year = first.year <;> by_cases whole : first.dayOfMonth = 1 <;>
    simp only [years, whole, if_true, if_false] <;> omega

/-- A month begins on the first occurrence or later exactly when it is one of the observed months or
comes after them. -/
lemma le_iff_lt_monthIndex {last first month : Date} (h : month.dayOfMonth = 1) :
    first ≤ month ↔ last.monthIndex - last.observedMonths first < month.monthIndex := by
  have day := dayOfMonth_bounds first
  have order : first ≤ month ↔ ¬ month < first := by
    rw [le_def, lt_def]
    omega
  rw [order, lt_iff_monthIndex, h, observedMonths_eq]
  by_cases whole : first.dayOfMonth = 1
  · rw [if_pos whole]
    omega
  · rw [if_neg whole]
    omega

/-- A problem that first occurred on the first of the last month of observation or before has been
observed for a month at least. -/
lemma one_le_observedMonths {last first : Date} (h : last.dayOfMonth = 1) (le : first ≤ last) :
    1 ≤ last.observedMonths first := by
  have months : last.monthIndex - last.observedMonths first < last.monthIndex :=
    (le_iff_lt_monthIndex h).1 le
  omega

end CrashTriage.Date
