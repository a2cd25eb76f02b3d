import CrashTriage.Text.Numeral

/-!
# Tallies

A tally is a stored number of occurrences. It is exact as long as 64 bits hold it; the first
addition that leaves them turns it into a floating-point number, which it stays. A total over
tallies is exact, too large for 64 bits, or floating-point because one of the tallies is.
-/

namespace CrashTriage

/-- A stored number of occurrences. -/
inductive Tally where
  /-- A number held exactly. -/
  | exact (n : Int)
  /-- A number that once left 64 bits, held approximately. -/
  | approximate (x : Float)

namespace Tally

/-- A tally after `n` more occurrences. -/
def add : Tally → Int → Tally
  | .exact m, n =>
    if Numeral.FitsInt64 (m + n) then .exact (m + n)
    else .approximate (Float.ofInt m + Float.ofInt n)
  | .approximate x, n => .approximate (x + Float.ofInt n)

/-- Whether a tally is held approximately. -/
def isApproximate : Tally → Bool
  | .exact _ => false
  | .approximate _ => true

/-- The number an exact tally holds, and zero for an approximate one. -/
def exactPart : Tally → Int
  | .exact n => n
  | .approximate _ => 0

/-- Whether a tally is above zero; an approximate one has left 64 bits upwards. -/
def isPositive : Tally → Bool
  | .exact n => decide (0 < n)
  | .approximate _ => true

end Tally

/-- The sum of the numbers that exact tallies hold. -/
def exactSum : List Tally → Int
  | [] => 0
  | tally :: rest => tally.exactPart + exactSum rest

/-- The sum of a list of tallies. -/
inductive Total where
  /-- The exact sum of exact tallies. -/
  | exact (n : Int)
  /-- The tallies are exact and their sum leaves 64 bits. -/
  | overflow
  /-- One of the tallies is approximate, and so is the sum. -/
  | approximate
deriving DecidableEq

/-- The total of a list of tallies. -/
def Total.ofTallies (tallies : List Tally) : Total :=
  if tallies.any Tally.isApproximate then .approximate
  else
    if Numeral.FitsInt64 (exactSum tallies) then .exact (exactSum tallies) else .overflow

@[simp] theorem Total.ofTallies_nil : Total.ofTallies [] = .exact 0 := by decide

end CrashTriage
