import CrashTriage.Proofs.ObservedMonths
import CrashTriage.Text.Numeral
import Mathlib.Data.Int.ConditionallyCompleteOrder
import Mathlib.Data.Int.Interval
import Mathlib.Data.Set.Card

/-!
# Months that are counted

The months of observation are counted by arithmetic on years and months, with one branch for dates
of the same year and one for all others. On the line of months the two are one formula, so the
number can be compared with a count: it is the number of firsts of months from the first occurrence
up to the last month, as each of these is known by its place on the line and no place between is
missing from the calendar's range. The range is narrow enough for every step of the arithmetic.
-/

namespace CrashTriage.Date

open Calendar

/-! ### The month before -/

/-- Whether a date lies in the month before the month of another date: in December of the year
before when that month is January, and else in the month before of the same year. -/
def IsMonthBefore (earlier date : Date) : Prop :=
  if date.month = 1 then earlier.year = date.year - 1 ∧ earlier.month = 12
  else earlier.year = date.year ∧ earlier.month = date.month - 1

instance (earlier date : Date) : Decidable (earlier.IsMonthBefore date) :=
  inferInstanceAs (Decidable (if date.month = 1 then _ ∧ _ else _ ∧ _))

/-- On the line of months it is the place before. -/
lemma isMonthBefore_iff {earlier date : Date} :
    earlier.IsMonthBefore date ↔ earlier.monthIndex = date.monthIndex - 1 := by
  have bounds := month_bounds earlier
  have bounds' := month_bounds date
  rw [monthIndex_eq earlier, monthIndex_eq date]
  unfold IsMonthBefore
  split
  · omega
  · omega

/-- The first of a month is the only one of that month. -/
lemma eq_of_firsts {a b : Date} (ha : a.dayOfMonth = 1) (hb : b.dayOfMonth = 1)
    (same : a.monthIndex = b.monthIndex) : a = b := by
  apply eq_of_day_eq
  rw [day_eq a, day_eq b, ha, hb, same]

/-- Where the calendar's range holds some date of the month before, that month has a first. -/
lemma exists_firstOfPreviousMonth? {earlier today : Date}
    (before : earlier.monthIndex = today.monthIndex - 1) :
    ∃ last, today.firstOfPreviousMonth? = some last := by
  obtain ⟨first, begins⟩ := Granularity.exists_bucketStart?_monthly today
  obtain ⟨one, index⟩ := addDays?_first_eq_some_iff.1 begins
  -- the earlier date comes before the first of this month, so the eve of that is a date
  have order : earlier < first := lt_iff_monthIndex.2 (.inl (by omega))
  have low := earlier.firstDay_le
  have high := first.le_lastDay
  rw [lt_def] at order
  obtain ⟨eve, found⟩ : ∃ eve, first.addDays? (-1) = some eve :=
    ⟨⟨first.day + -1, by omega, by omega⟩, ofDay?_eq_some_iff.2 rfl⟩
  exact exists_firstOfPreviousMonth?_of_eve begins found

/-- The last month of observation begins on the first of the month before. -/
lemma firstOfPreviousMonth?_eq_some_iff {today last : Date} :
    today.firstOfPreviousMonth? = some last ↔ last.dayOfMonth = 1 ∧ last.IsMonthBefore today := by
  rw [isMonthBefore_iff]
  constructor
  · exact of_firstOfPreviousMonth?_eq_some
  · rintro ⟨one, index⟩
    obtain ⟨found, previous⟩ := exists_firstOfPreviousMonth? index
    obtain ⟨one', index'⟩ := of_firstOfPreviousMonth?_eq_some previous
    rw [previous, eq_of_firsts one' one (index'.trans index.symm)]

/-! ### Counting firsts of months -/

/-- The firsts of months from one date up to another. -/
def firstsBetween (first last : Date) : Set Date :=
  {month | month.dayOfMonth = 1 ∧ first ≤ month ∧ month ≤ last}

/-- They take the places on the line of months that the observed months take. -/
lemma bijOn_monthIndex (first last : Date) :
    Set.BijOn monthIndex (firstsBetween first last)
      (Set.Ioc (last.monthIndex - last.observedMonths first) last.monthIndex) := by
  refine ⟨?_, ?_, ?_⟩
  · rintro month ⟨one, after, before⟩
    exact ⟨(le_iff_lt_monthIndex one).1 after, (le_iff_of_dayOfMonth_eq_one one).1 before⟩
  · rintro a ⟨ha, -⟩ b ⟨hb, -⟩ same
    exact eq_of_firsts ha hb same
  · rintro place ⟨after, before⟩
    -- the month begins inside the range, as it lies between two dates
    have low : firstDay ≤ monthStart place := by
      refine Int.le_trans (Granularity.firstDay_le_monthStart first)
        (monthStart_le_monthStart_iff.2 ?_)
      rw [observedMonths_eq] at after
      split at after
      · omega
      · omega
    have high : monthStart place ≤ lastDay :=
      Int.le_trans (monthStart_le_iff.2 before) last.le_lastDay
    have index : monthIndex ⟨monthStart place, low, high⟩ = place := monthOfDay_monthStart place
    have one : dayOfMonth ⟨monthStart place, low, high⟩ = 1 := by
      unfold dayOfMonth
      rw [index, Int.sub_self, Int.zero_add]
    refine ⟨⟨monthStart place, low, high⟩, ⟨one, ?_, ?_⟩, index⟩
    · have later : last.monthIndex - last.observedMonths first
          < monthIndex ⟨monthStart place, low, high⟩ := by rwa [index]
      exact (le_iff_lt_monthIndex one).2 later
    · rw [le_iff_of_dayOfMonth_eq_one one, index]
      exact before

/-- There are as many of them as observed months, and none when that number is negative. -/
lemma ncard_firstsBetween (first last : Date) :
    (firstsBetween first last).ncard = (last.observedMonths first).toNat := by
  rw [(bijOn_monthIndex first last).ncard_eq, ← Finset.coe_Ioc, Set.ncard_coe_finset, Int.card_Ioc,
    Int.sub_sub_self]

/-- No month is observed when the first occurrence comes after the first of the last month. -/
lemma observedMonths_nonpos {last first : Date} (begins : last.dayOfMonth = 1)
    (lt : last < first) : last.observedMonths first ≤ 0 := by
  have late : ¬ last.monthIndex - last.observedMonths first < last.monthIndex := fun before =>
    Int.not_le.2 lt ((le_iff_lt_monthIndex begins).2 before)
  omega

/-! ### The arithmetic of counting -/

/-- The two branches of the computation are one formula. -/
lemma observedMonths_eq_linear (last first : Date) :
    last.observedMonths first =
      12 * (last.year - first.year) + (last.month - first.month) + 1
        - (if first.dayOfMonth = 1 then 0 else 1) := by
  have lastIndex := monthIndex_eq last
  have firstIndex := monthIndex_eq first
  rw [observedMonths_eq]
  split
  · omega
  · omega

/-- The years of the calendar's range. -/
lemma year_bounds (date : Date) : -262143 ≤ date.year ∧ date.year ≤ 262142 := by
  have low := Granularity.firstDay_le_monthStart date
  rw [← Granularity.monthStart_firstMonth, monthStart_le_monthStart_iff] at low
  have high : monthStart (12 * 262143) = lastDay + 1 := by decide
  have below : ¬ 12 * 262143 ≤ monthOfDay date.day := by
    rw [← monthStart_le_iff, high]
    have := date.le_lastDay
    omega
  unfold year monthIndex at *
  omega

/-- A number that fits in a word, if it does. -/
def inWord? (least greatest n : Int) : Option Int :=
  if least ≤ n ∧ n ≤ greatest then some n else none

lemma inWord?_eq_some {least greatest n : Int} (low : least ≤ n) (high : n ≤ greatest) :
    inWord? least greatest n = some n :=
  if_pos ⟨low, high⟩

/-- A number that fits in a word of 64 bits. -/
def inWord64? : Int → Option Int := inWord? Numeral.minInt64 Numeral.maxInt64

/-- A number that fits in a word of 32 bits. -/
def inWord32? : Int → Option Int := inWord? (-2147483648) 2147483647

/-- The number of observed months with every step in a word: the difference of the years in 32 bits
and all other steps in 64 bits. There is none when some step leaves its word. -/
def observedMonthsInWords? (last first : Date) : Option Int := do
  let apart ← inWord64? (last.month - first.month)
  let sameYear ← inWord64? (apart + 1)
  let months ←
    if last.year = first.year then some sameYear
    else do
      let years ← inWord32? (last.year - first.year)
      let between ← inWord64? (years - 1)
      let whole ← inWord64? (12 * between)
      let upToLast ← inWord64? (last.month + whole)
      let sinceFirst ← inWord64? (13 - first.month)
      inWord64? (upToLast + sinceFirst)
  if first.dayOfMonth = 1 then some months else inWord64? (months - 1)

/-- No step leaves its word. -/
lemma observedMonthsInWords?_eq_some (last first : Date) :
    last.observedMonthsInWords? first = some (last.observedMonths first) := by
  have lastMonth := month_bounds last
  have firstMonth := month_bounds first
  have lastYear := year_bounds last
  have firstYear := year_bounds first
  have small {n : Int} (low : -10000000 ≤ n) (high : n ≤ 10000000) : inWord64? n = some n :=
    inWord?_eq_some (by unfold Numeral.minInt64; omega) (by unfold Numeral.maxInt64; omega)
  have years : inWord32? (last.year - first.year) = some (last.year - first.year) :=
    inWord?_eq_some (by omega) (by omega)
  unfold observedMonthsInWords? observedMonths
  by_cases same : last.year = first.year
  · simp (disch := omega) only [small, same, if_true, Option.bind_eq_bind, Option.bind_some]
    split
    · rfl
    · rfl
  · simp (disch := omega) only [small, years, same, if_false, Option.bind_eq_bind,
      Option.bind_some]
    split
    · rfl
    · rfl

/-! ### Months of observation are counted -/

/-- The months of observation. When the calendar's range holds a date of the month before today's,
the last month of observation begins on the first of that month. From a first occurrence that is not
after this date, the number of observed months is the number of firsts of months up to it, of which
there is one at least; from a later one it is not positive. For any two dates the number is one
formula in years, months and days, and no step of its computation leaves the words that it is done
in. -/
theorem observed_months_are_counted :
    (∀ today last : Date, today.firstOfPreviousMonth? = some last ↔
      last.dayOfMonth = 1 ∧ last.IsMonthBefore today) ∧
    (∀ today earlier : Date, earlier.IsMonthBefore today →
      ∃ last, today.firstOfPreviousMonth? = some last) ∧
    (∀ last first : Date, last.dayOfMonth = 1 →
      (first ≤ last → ((firstsBetween first last).ncard : Int) = last.observedMonths first ∧
        1 ≤ last.observedMonths first) ∧
      (last < first → last.observedMonths first ≤ 0)) ∧
    ∀ last first : Date,
      last.observedMonths first =
        12 * (last.year - first.year) + (last.month - first.month) + 1
          - (if first.dayOfMonth = 1 then 0 else 1) ∧
      last.observedMonthsInWords? first = some (last.observedMonths first) := by
  refine ⟨fun _ _ => firstOfPreviousMonth?_eq_some_iff, ?_, ?_, ?_⟩
  · intro today earlier before
    exact exists_firstOfPreviousMonth? (isMonthBefore_iff.1 before)
  · intro last first begins
    refine ⟨fun le => ?_, observedMonths_nonpos begins⟩
    have observed := one_le_observedMonths begins le
    rw [ncard_firstsBetween]
    exact ⟨Int.toNat_of_nonneg (by omega), observed⟩
  · intro last first
    exact ⟨observedMonths_eq_linear last first, observedMonthsInWords?_eq_some last first⟩

/-- The middle of January of year 0. -/
def midJanuary : Date := ⟨14, by decide, by decide⟩

/-- The middle of October of the year before. -/
def midOctober : Date := ⟨-78, by decide, by decide⟩

/-- The first of December of that year. -/
def firstOfDecember : Date := ⟨-31, by decide, by decide⟩

/-- In January of year 0 the last month of observation is December of the year before. Since the
middle of October there have been two firsts of months up to it; the middle of January is too late.
-/
theorem observed_months_of_year_zero :
    midJanuary = ofYearMonthDay? 0 1 15 ∧ midOctober = ofYearMonthDay? (-1) 10 15 ∧
      firstOfDecember.IsMonthBefore midJanuary ∧
      midJanuary.firstOfPreviousMonth? = some firstOfDecember ∧
      (firstsBetween midOctober firstOfDecember).ncard = 2 ∧
      firstOfDecember.observedMonths midJanuary ≤ 0 := by
  have before : firstOfDecember.IsMonthBefore midJanuary := by decide
  have begins : firstOfDecember.dayOfMonth = 1 := by decide
  obtain ⟨previous, inRange, counts, -⟩ := observed_months_are_counted
  obtain ⟨last, found⟩ := inRange midJanuary firstOfDecember before
  obtain ⟨one, earlier⟩ := (previous midJanuary last).1 found
  obtain rfl : last = firstOfDecember :=
    eq_of_firsts one begins ((isMonthBefore_iff.1 earlier).trans (isMonthBefore_iff.1 before).symm)
  have since := (counts firstOfDecember midOctober begins).1 (by decide)
  refine ⟨rfl, rfl, before, found, Int.ofNat.inj since.1, ?_⟩
  exact (counts firstOfDecember midJanuary begins).2 (by decide)

end CrashTriage.Date
