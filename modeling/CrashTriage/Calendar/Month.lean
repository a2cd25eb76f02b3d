/-!
# Months on the line of days

The proleptic Gregorian calendar as two scales on the integers. Days are counted from 1 January
of year 0; months are counted from January of year 0, so that month `12 * y + m - 1` is month `m`
of year `y`. Main statement: the month of a day is the one month that begins on or before the day
and whose successor begins after it.
-/

namespace CrashTriage.Calendar

/-- A year with a 29 February. -/
def IsLeap (y : Int) : Prop := y % 4 = 0 ∧ (y % 100 ≠ 0 ∨ y % 400 = 0)

instance (y : Int) : Decidable (IsLeap y) := inferInstanceAs (Decidable (_ ∧ _))

/-- The day on which year `y` begins: 365 days for each year before it, and one more for each
leap year among them. -/
def yearStart (y : Int) : Int :=
  365 * y + (y + 3) / 4 - (y + 99) / 100 + (y + 399) / 400

/-- The day of the year, from 0, on which the month number `m` from 0 to 11 begins. -/
def monthOffset (leap : Prop) [Decidable leap] (m : Int) : Int :=
  (367 * m + 5) / 12 - (if m ≤ 1 then 0 else if leap then 1 else 2)

/-- The day on which a month begins. -/
def monthStart (month : Int) : Int :=
  yearStart (month / 12) + monthOffset (IsLeap (month / 12)) (month % 12)

/-- The year that holds a day: the mean length of a year gives it up to one. -/
def yearOfDay (day : Int) : Int :=
  let guess := 400 * day / 146097
  if day < yearStart guess then guess - 1
  else if yearStart (guess + 1) ≤ day then guess + 1
  else guess

/-- The month that holds a day: no month is longer than 31 days, which gives it up to one. -/
def monthOfDay (day : Int) : Int :=
  let year := yearOfDay day
  let guess := 12 * year + (day - yearStart year) / 31
  if monthStart (guess + 1) ≤ day then guess + 1 else guess

/-! ### Years and months tile the days -/

theorem yearStart_succ (y : Int) :
    yearStart (y + 1) = yearStart y + (if IsLeap y then 366 else 365) := by
  by_cases leap : IsLeap y
  · rw [if_pos leap]
    unfold yearStart
    unfold IsLeap at leap
    omega
  · rw [if_neg leap]
    unfold yearStart
    unfold IsLeap at leap
    omega

theorem yearStart_yearOfDay_le (day : Int) : yearStart (yearOfDay day) ≤ day := by
  simp only [yearOfDay]
  split
  · simp only [yearStart] at *; omega
  · split
    · assumption
    · omega

theorem day_lt_yearStart_succ (day : Int) : day < yearStart (yearOfDay day + 1) := by
  simp only [yearOfDay]
  split
  · rename_i h
    have : 400 * day / 146097 - 1 + 1 = 400 * day / 146097 := by omega
    rw [this]; exact h
  · split
    · simp only [yearStart] at *; omega
    · omega

theorem monthStart_succ_bounds (month : Int) :
    monthStart month + 28 ≤ monthStart (month + 1) ∧
      monthStart (month + 1) ≤ monthStart month + 31 := by
  simp only [monthStart, monthOffset]
  by_cases last : month % 12 = 11
  · have year : (month + 1) / 12 = month / 12 + 1 := by omega
    have first : (month + 1) % 12 = 0 := by omega
    rw [year, first, last, yearStart_succ]
    by_cases leap : IsLeap (month / 12) <;> simp [leap] <;> omega
  · have year : (month + 1) / 12 = month / 12 := by omega
    have next : (month + 1) % 12 = month % 12 + 1 := by omega
    rw [year, next]
    have low : 0 ≤ month % 12 := by omega
    have high : month % 12 < 11 := by omega
    generalize month % 12 = m at *
    split <;> split <;> omega

theorem monthStart_monthOfDay_le (day : Int) : monthStart (monthOfDay day) ≤ day := by
  have low := yearStart_yearOfDay_le day
  have high := day_lt_yearStart_succ day
  rw [yearStart_succ] at high
  simp only [monthOfDay]
  split
  · assumption
  · generalize yearOfDay day = y at *
    have small : (day - yearStart y) / 31 ≤ 11 ∧ 0 ≤ (day - yearStart y) / 31 := by
      split at high <;> omega
    have year : (12 * y + (day - yearStart y) / 31) / 12 = y := by omega
    have month : (12 * y + (day - yearStart y) / 31) % 12 = (day - yearStart y) / 31 := by omega
    simp only [monthStart, year, month, monthOffset]
    split <;> omega

theorem day_lt_monthStart_succ (day : Int) : day < monthStart (monthOfDay day + 1) := by
  have low := yearStart_yearOfDay_le day
  have high := day_lt_yearStart_succ day
  rw [yearStart_succ] at high
  simp only [monthOfDay]
  generalize yearOfDay day = y at *
  split
  · have small : (day - yearStart y) / 31 ≤ 11 ∧ 0 ≤ (day - yearStart y) / 31 := by
      split at high <;> omega
    generalize hk : (day - yearStart y) / 31 = k at *
    have span : day - yearStart y < 31 * k + 31 := by omega
    by_cases last : k ≥ 10
    · have year : (12 * y + k + 1 + 1) / 12 = y + 1 := by omega
      have month : (12 * y + k + 1 + 1) % 12 = k - 10 := by omega
      simp only [monthStart, year, month, monthOffset]
      rw [yearStart_succ]
      split at high <;> split <;> omega
    · have year : (12 * y + k + 1 + 1) / 12 = y := by omega
      have month : (12 * y + k + 1 + 1) % 12 = k + 2 := by omega
      simp only [monthStart, year, month, monthOffset]
      split
      · omega
      · split at high <;> split <;> omega
  · rename_i h
    exact Int.not_le.1 h

theorem monthStart_strictMono {a b : Int} (h : a < b) : monthStart a < monthStart b := by
  obtain ⟨n, rfl⟩ : ∃ n : Nat, b = a + 1 + n := ⟨(b - a - 1).toNat, by omega⟩
  induction n with
  | zero => have := monthStart_succ_bounds a; simp; omega
  | succ n ih =>
    have step := monthStart_succ_bounds (a + 1 + n)
    have := ih (by omega)
    have shift : a + 1 + ((n + 1 : Nat) : Int) = a + 1 + n + 1 := by omega
    rw [shift]; omega

theorem monthStart_le_monthStart_iff {a b : Int} : monthStart a ≤ monthStart b ↔ a ≤ b := by
  constructor
  · intro h
    rcases Int.lt_or_le b a with lt | le
    · have := monthStart_strictMono lt; omega
    · exact le
  · intro h
    rcases Int.lt_or_eq_of_le h with lt | rfl
    · exact Int.le_of_lt (monthStart_strictMono lt)
    · exact Int.le_refl _

/-- A month begins on or before a day exactly when it is not after the month of the day. -/
theorem monthStart_le_iff {month day : Int} : monthStart month ≤ day ↔ month ≤ monthOfDay day := by
  constructor
  · intro h
    rcases Int.lt_or_le (monthOfDay day) month with lt | le
    · have next := day_lt_monthStart_succ day
      have := monthStart_le_monthStart_iff.2 (Int.add_one_le_of_lt lt)
      omega
    · exact le
  · intro h
    exact Int.le_trans (monthStart_le_monthStart_iff.2 h) (monthStart_monthOfDay_le day)

theorem monthOfDay_monthStart (month : Int) : monthOfDay (monthStart month) = month := by
  have low := monthStart_le_iff.1 (Int.le_refl (monthStart month))
  have high := monthStart_le_monthStart_iff.1 (monthStart_monthOfDay_le (monthStart month))
  omega

end CrashTriage.Calendar
