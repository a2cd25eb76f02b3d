import CrashTriage.Proofs.BucketStart

/-!
# Rounding dates to boundaries

The start of a bucket rounds a date down to a boundary. Since it is the last boundary that is not
after the date, rounding leaves boundaries where they are and keeps the order of dates, and dates
are rounded to the same boundary exactly when they lie in the same day, week or month. Only the days
before the first Monday of the calendar's range have no Monday to be rounded to.
-/

namespace CrashTriage.Granularity

/-- Whether a date lies in the day of another one, between the Monday and the Sunday of its week, or
in its month of its year. -/
def SamePeriod : Granularity → Date → Date → Prop
  | .daily, date, other => other = date
  | .weekly, date, other =>
    date.day - date.weekday ≤ other.day ∧ other.day ≤ date.day - date.weekday + 6
  | .monthly, date, other => other.year = date.year ∧ other.month = date.month

instance : (granularity : Granularity) → (date other : Date) →
    Decidable (granularity.SamePeriod date other)
  | .daily, date, other => inferInstanceAs (Decidable (other = date))
  | .weekly, _, _ => inferInstanceAs (Decidable (_ ∧ _))
  | .monthly, _, _ => inferInstanceAs (Decidable (_ ∧ _))

/-- The first Monday of the calendar's range, which begins on a Thursday. -/
def firstMonday : Date := ⟨firstDay + 4, by decide, by decide⟩

lemma firstDay_isThursday : (firstDay + 5) % 7 = 3 := by decide

/-- No Monday of the range comes before it. -/
lemma firstMonday_le {monday : Date} (begins : monday.weekday = 0) : firstMonday ≤ monday := by
  have thursday := firstDay_isThursday
  have low := monday.firstDay_le
  unfold Date.weekday at begins
  rw [Date.le_def]
  change firstDay + 4 ≤ monday.day
  omega

variable {granularity : Granularity} {date other start : Date}

/-! ### Dates without a boundary before them -/

/-- The week of a date begins outside the range exactly when the date comes before that Monday. -/
lemma bucketStart?_weekly_eq_none_iff : weekly.bucketStart? date = none ↔ date < firstMonday := by
  have thursday := firstDay_isThursday
  have low := date.firstDay_le
  have high := date.le_lastDay
  unfold bucketStart? Date.addDays? Date.weekday
  rw [Date.ofDay?_eq_none_iff, Date.lt_def]
  change _ ↔ date.day < firstDay + 4
  omega

/-- Only weeks begin outside the range. -/
lemma bucketStart?_eq_none_iff :
    granularity.bucketStart? date = none ↔ granularity = .weekly ∧ date < firstMonday := by
  cases granularity with
  | daily => simp [bucketStart?_daily]
  | weekly => simp [bucketStart?_weekly_eq_none_iff]
  | monthly =>
    obtain ⟨start, placed⟩ := exists_bucketStart?_monthly date
    simp [placed]

/-! ### Dates that are rounded alike -/

/-- A boundary is rounded to itself. -/
lemma bucketStart?_of_isBoundary (bounds : granularity.IsBoundary start) :
    granularity.bucketStart? start = some start := by
  cases granularity with
  | daily => exact bucketStart?_daily start
  | weekly =>
    refine bucketStart?_weekly_eq_some_iff.2 ⟨bounds, Int.le_refl start.day, ?_⟩
    omega
  | monthly => exact bucketStart?_monthly_eq_some_iff.2 ⟨bounds, rfl⟩

/-- Later dates are not rounded to earlier boundaries. -/
lemma bucketStart?_mono {later laterStart : Date} (h : granularity.bucketStart? date = some start)
    (h' : granularity.bucketStart? later = some laterStart) (le : date ≤ later) :
    start ≤ laterStart :=
  (boundary_le_iff h' (isBoundary_of_bucketStart? h)).1 (Int.le_trans (bucketStart?_le h) le)

/-- The dates of a bucket are those of one period. -/
lemma bucketStart?_eq_iff_samePeriod (h : granularity.bucketStart? date = some start) :
    granularity.bucketStart? other = some start ↔ granularity.SamePeriod date other := by
  cases granularity with
  | daily =>
    obtain rfl : date = start := Option.some.inj h
    rw [bucketStart?_daily, Option.some.injEq]
    rfl
  | weekly =>
    obtain ⟨begins, before, within⟩ := bucketStart?_weekly_eq_some_iff.1 h
    have monday : date.day - date.weekday = start.day := by
      rw [Date.le_def] at before
      unfold Date.weekday at begins ⊢
      omega
    rw [bucketStart?_weekly_eq_some_iff, Date.le_def, SamePeriod, monday]
    omega
  | monthly =>
    obtain ⟨first, index⟩ := bucketStart?_monthly_eq_some_iff.1 h
    rw [bucketStart?_monthly_eq_some_iff, and_iff_right first, index, eq_comm,
      Date.monthIndex_eq_iff]
    rfl

/-! ### Rounding down -/

/-- A date is rounded down to a boundary. -/
structure RoundsDownTo (granularity : Granularity) (date start : Date) : Prop where
  isBoundary : granularity.IsBoundary start
  notAfter : start ≤ date
  /-- No boundary lies between the two. -/
  last : ∀ boundary, granularity.IsBoundary boundary → (boundary ≤ date ↔ boundary ≤ start)
  idempotent : granularity.bucketStart? start = some start
  monotone : ∀ later laterStart, granularity.bucketStart? later = some laterStart →
    date ≤ later → start ≤ laterStart
  /-- The dates that are rounded alike are those of one day, week or month. -/
  alike : ∀ other, granularity.bucketStart? other = some start ↔ granularity.SamePeriod date other

/-- A bucket starts on the last boundary that is not after its dates: no other boundary lies between
the two, boundaries start buckets of their own, later dates lie in no earlier bucket, and the dates
of a bucket are those of one day, of one week from Monday to Sunday, or of one month of a year. Only
a week may have no start, and the dates without one are those before the first Monday of the
calendar's range. -/
theorem buckets_start_at_last_boundary :
    (∀ (granularity : Granularity) (date start : Date),
      granularity.bucketStart? date = some start → granularity.RoundsDownTo date start) ∧
    (firstMonday.weekday = 0 ∧ ∀ monday : Date, monday.weekday = 0 → firstMonday ≤ monday) ∧
    ∀ (granularity : Granularity) (date : Date),
      granularity.bucketStart? date = none ↔ granularity = .weekly ∧ date < firstMonday := by
  refine ⟨fun granularity date start placed => ?_, ⟨by decide, fun monday => firstMonday_le⟩, ?_⟩
  · have bounds := isBoundary_of_bucketStart? placed
    exact {
      isBoundary := bounds
      notAfter := bucketStart?_le placed
      last := fun boundary => boundary_le_iff placed
      idempotent := bucketStart?_of_isBoundary bounds
      monotone := fun later laterStart => bucketStart?_mono placed
      alike := fun other => bucketStart?_eq_iff_samePeriod placed }
  · intro granularity date
    exact bucketStart?_eq_none_iff

/-- A Friday, the last day of the year before year 0. -/
def lastBeforeYearZero : Date := ⟨-1, by decide, by decide⟩

/-- The Sunday after it, in year 0. -/
def sundayAfter : Date := ⟨1, by decide, by decide⟩

/-- The Monday before it. -/
def mondayBefore : Date := ⟨-5, by decide, by decide⟩

/-- The turn of the year does not part a week, which goes on up to its Sunday. The Thursday on which
the calendar's range begins has no week to be counted in. -/
theorem week_of_year_zero :
    lastBeforeYearZero = Date.ofYearMonthDay? (-1) 12 31 ∧
      sundayAfter = Date.ofYearMonthDay? 0 1 2 ∧
      weekly.bucketStart? lastBeforeYearZero = some mondayBefore ∧
      weekly.IsBoundary mondayBefore ∧
      weekly.bucketStart? sundayAfter = some mondayBefore ∧
      weekly.bucketStart? ⟨firstDay, by decide, by decide⟩ = none := by
  have placed : weekly.bucketStart? lastBeforeYearZero = some mondayBefore := by decide
  obtain ⟨rounds, -, outside⟩ := buckets_start_at_last_boundary
  have down := rounds weekly lastBeforeYearZero mondayBefore placed
  refine ⟨rfl, rfl, placed, down.isBoundary, (down.alike sundayAfter).2 (by decide), ?_⟩
  exact (outside weekly _).2 ⟨rfl, by decide⟩

end CrashTriage.Granularity
