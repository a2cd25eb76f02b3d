/-!
# Powers

The powers of ten, by which decimals are scaled, and the powers of two, by which floating-point
numbers are.
-/

namespace CrashTriage

/-- Ten to the power `n`. -/
def powTen (n : Nat) : Nat := Nat.pow 10 n

/-- Two to the power `n`. -/
def powTwo (n : Nat) : Nat := Nat.pow 2 n

theorem powTen_succ (n : Nat) : powTen (n + 1) = powTen n * 10 := rfl

end CrashTriage
