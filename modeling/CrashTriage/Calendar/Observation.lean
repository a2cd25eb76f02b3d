import CrashTriage.Calendar.Date

/-!
# Months of observation

Long-term ranking averages over the whole months in which a problem was observed. The last of
them is the month before the current one; the first is the month of the first occurrence, unless
that month was only observed in part.
-/

namespace CrashTriage.Date

/-- The first of the date's month, if the calendar's range holds it. -/
def firstOfMonth? (date : Date) : Option Date :=
  date.addDays? (1 - date.dayOfMonth)

/-- The first of the month before the month of `today`. A problem has a whole month behind it only
if it first occurred on this date or before. -/
def firstOfPreviousMonth? (today : Date) : Option Date := do
  let first ← today.firstOfMonth?
  let lastOfPrevious ← first.addDays? (-1)
  lastOfPrevious.firstOfMonth?

/-- The number of whole months from the month of `first` to the month of `last`, both included. The
first month does not count when `first` is not its first day. -/
def observedMonths (last first : Date) : Int :=
  let months :=
    if last.year = first.year then last.month - first.month + 1
    else last.month + 12 * (last.year - first.year - 1) + (13 - first.month)
  if first.dayOfMonth = 1 then months else months - 1

end CrashTriage.Date
