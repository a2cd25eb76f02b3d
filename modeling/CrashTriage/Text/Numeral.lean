import CrashTriage.Decimal.Power

/-!
# Decimal numerals

Unsigned and signed decimal numerals over lists of characters, and the two fixed widths the
library reads: signed and unsigned integers of 64 bits.
-/

namespace CrashTriage.Numeral

/-- The number a non-empty run of ASCII digits denotes; anything else denotes nothing. -/
def natural? (cs : List Char) : Option Nat :=
  if cs ≠ [] ∧ cs.all Char.isDigit then some (Nat.ofDigitChars 10 cs 0) else none

/-- An optional sign, then digits. -/
def integer? : List Char → Option Int
  | '+' :: cs => (natural? cs).map Int.ofNat
  | '-' :: cs => (natural? cs).map fun n => -Int.ofNat n
  | cs => (natural? cs).map Int.ofNat

/-- The last `width` decimal digits of `n`, zeros on the left included. -/
def lastDigits : (width n : Nat) → List Char
  | 0, _ => []
  | width + 1, n => lastDigits width (n / 10) ++ [Nat.digitChar (n % 10)]

/-- The decimal digits of `n`, filled up with zeros on the left to at least `width` places. -/
def padded (width n : Nat) : List Char :=
  if n < powTen width then lastDigits width n else Nat.toDigits 10 n

/-- The shortest decimal numeral of an integer: a minus sign only below zero. -/
def ofInt : Int → List Char
  | .ofNat n => Nat.toDigits 10 n
  | .negSucc n => '-' :: Nat.toDigits 10 (n + 1)

/-! ### Sixty-four bits -/

/-- The least signed integer of 64 bits. -/
def minInt64 : Int := -9223372036854775808

/-- The greatest signed integer of 64 bits. -/
def maxInt64 : Int := 9223372036854775807

/-- The greatest unsigned integer of 64 bits. -/
def maxNat64 : Nat := 18446744073709551615

/-- Whether an integer is one of the signed integers of 64 bits. -/
def FitsInt64 (n : Int) : Prop := minInt64 ≤ n ∧ n ≤ maxInt64

instance (n : Int) : Decidable (FitsInt64 n) := inferInstanceAs (Decidable (_ ∧ _))

/-- A signed numeral whose value fits in 64 bits. -/
def int64? (cs : List Char) : Option Int :=
  (integer? cs).filter fun n => decide (FitsInt64 n)

/-- An unsigned numeral, a leading plus sign allowed, whose value fits in 64 bits. -/
def nat64? : List Char → Option Nat
  | '+' :: cs => (natural? cs).filter (· ≤ maxNat64)
  | cs => (natural? cs).filter (· ≤ maxNat64)

@[simp] theorem length_lastDigits (width n : Nat) : (lastDigits width n).length = width := by
  induction width generalizing n with
  | zero => rfl
  | succ width ih => simp [lastDigits, ih]

/-! ### Reading what was written -/

theorem natural?_toDigits (n : Nat) : natural? (Nat.toDigits 10 n) = some n := by
  have digits : (Nat.toDigits 10 n).all Char.isDigit = true :=
    List.all_eq_true.2 fun c hc => Nat.isDigit_of_mem_toDigits (by decide) (by decide) hc
  simp [natural?, Nat.toDigits_ne_nil, digits, Nat.ofDigitChars_toDigits]

theorem integer?_ofInt (n : Int) : integer? (ofInt n) = some n := by
  cases n with
  | ofNat n =>
    have plain : integer? (Nat.toDigits 10 n) = (natural? (Nat.toDigits 10 n)).map Int.ofNat := by
      unfold integer?
      split
      · rename_i cs h
        have := Nat.isDigit_of_mem_toDigits (b := 10) (n := n) (c := '+') (by decide) (by decide)
          (by simp [h])
        exact absurd this (by decide)
      · rename_i cs h
        have := Nat.isDigit_of_mem_toDigits (b := 10) (n := n) (c := '-') (by decide) (by decide)
          (by simp [h])
        exact absurd this (by decide)
      · rfl
    simp [ofInt, plain, natural?_toDigits]
  | negSucc n =>
    have signed : integer? ('-' :: Nat.toDigits 10 (n + 1)) =
        (natural? (Nat.toDigits 10 (n + 1))).map fun m => -Int.ofNat m := rfl
    rw [ofInt, signed, natural?_toDigits]
    rfl

end CrashTriage.Numeral
