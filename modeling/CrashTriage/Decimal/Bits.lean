import CrashTriage.Decimal.Power

/-!
# The bits of floating-point numbers

A floating-point number of 64 bits is a sign and a magnitude. The magnitudes of finite numbers come
first, in order of size, then that of infinity, then those of no number.
-/

namespace CrashTriage.Decimal

/-- Whether the sign of a number is minus. -/
def isNegative (x : Float) : Bool := powTwo 63 ≤ x.toBits.toNat

/-- The bits of a number without its sign. -/
def magnitude (x : Float) : Nat := x.toBits.toNat % powTwo 63

/-- The magnitude of infinity. -/
def infinity : Nat := 2047 * powTwo 52

/-- The place of a number in the total order of floating-point numbers: its magnitude, counted
downwards below zero. -/
def place (x : Float) : Int :=
  if isNegative x then -1 - Int.ofNat (magnitude x) else Int.ofNat (magnitude x)

end CrashTriage.Decimal
