import CrashTriage.Calendar.Date

/-!
# Granularities of the occurrence history

Occurrences are counted in buckets of a day, of a week from Monday to Sunday, or of a calendar
month. A bucket is named by the date on which it starts.
-/

namespace CrashTriage

/-- How long the buckets of a history are. -/
inductive Granularity where
  | daily
  | weekly
  | monthly
deriving DecidableEq

namespace Granularity

/-- The granularity that a token names: one letter or the whole word for days and weeks, and
months for every other token. -/
def ofToken (token : String) : Granularity :=
  if token = "d" ∨ token = "daily" then .daily
  else if token = "w" ∨ token = "weekly" then .weekly
  else .monthly

/-- The word for a granularity. -/
def name : Granularity → String
  | .daily => "daily"
  | .weekly => "weekly"
  | .monthly => "monthly"

/-- A granularity is asked for by its word. -/
instance : Coe Granularity String := ⟨name⟩

theorem ofToken_name (granularity : Granularity) : ofToken granularity.name = granularity := by
  cases granularity <;> decide

/-- The dates on which a bucket may start: every day, the Mondays, or the firsts of a month. -/
def IsBoundary : Granularity → Date → Prop
  | .daily, _ => True
  | .weekly, date => date.weekday = 0
  | .monthly, date => date.dayOfMonth = 1

instance : (granularity : Granularity) → (date : Date) → Decidable (granularity.IsBoundary date)
  | .daily, _ => isTrue trivial
  | .weekly, date => inferInstanceAs (Decidable (date.weekday = 0))
  | .monthly, date => inferInstanceAs (Decidable (date.dayOfMonth = 1))

/-- The start of the bucket that holds a date, if the calendar's range holds that start. -/
def bucketStart? (granularity : Granularity) (date : Date) : Option Date :=
  match granularity with
  | .daily => some date
  | .weekly => date.addDays? (-date.weekday)
  | .monthly => date.addDays? (1 - date.dayOfMonth)

end Granularity

end CrashTriage
