import CrashTriage.Decimal.Bits

/-!
# The shortest decimal of a floating-point number

Of all decimals that read back as a floating-point number, the one with the fewest digits, and of
several such the nearest; half-way between two of them, the larger. A finite number is a whole
multiple of a power of two; the decimals that read back as it fill the interval that reaches
half-way to its neighbours.
-/

namespace CrashTriage.Decimal

/-- A positive floating-point number with the interval that reads back as it: the number, the
lower end and the upper end over one denominator, and whether the ends belong to the interval. -/
structure Interval where
  value : Nat
  low : Nat
  high : Nat
  denominator : Nat
  closed : Bool

/-- The interval of the number `mantissa * 2 ^ exponent`. Just above a power of two the lower
neighbour is only half as far away as the upper one. -/
def Interval.ofBinary (mantissa : Nat) (exponent : Int) (atPower : Bool) : Interval :=
  let scale (n : Nat) : Nat := if 2 ≤ exponent then n * powTwo (exponent - 2).toNat else n
  { value := scale (4 * mantissa)
    low := scale (4 * mantissa - if atPower then 1 else 2)
    high := scale (4 * mantissa + 2)
    denominator := if 2 ≤ exponent then 1 else powTwo (2 - exponent).toNat
    closed := decide (mantissa % 2 = 0) }

/-- The interval of a positive finite floating-point number, given by its bits. -/
def Interval.ofBits (bits : Nat) : Interval :=
  let fraction := bits % powTwo 52
  let field := bits / powTwo 52 % powTwo 11
  if field = 0 then .ofBinary fraction (-1074) false
  else .ofBinary (powTwo 52 + fraction) (Int.ofNat field - 1075) (fraction = 0 && 1 < field)

/-- A decimal: a whole number and a power of ten. -/
structure Digits where
  coefficient : Nat
  exponent : Int
deriving DecidableEq

/-- A decimal over the denominator of an interval, and that factor: both sides of a comparison
of the decimal with the interval. -/
def Interval.sides (interval : Interval) (digits : Digits) : Nat × Nat :=
  if 0 ≤ digits.exponent then
    (digits.coefficient * powTen digits.exponent.toNat * interval.denominator, 1)
  else (digits.coefficient * interval.denominator, powTen (-digits.exponent).toNat)

/-- Whether a decimal lies in an interval. -/
def Interval.contains (interval : Interval) (digits : Digits) : Bool :=
  let (point, factor) := interval.sides digits
  if interval.closed then interval.low * factor ≤ point && point ≤ interval.high * factor
  else interval.low * factor < point && point < interval.high * factor

/-- The power of ten that a positive number reaches. -/
def Interval.leadingPlace (interval : Interval) : Int :=
  (Nat.toDigits 10 (interval.value * powTen 340 / interval.denominator)).length - 341

/-- The nearest decimal with the given last place that lies in an interval, if there is one. Of two
that are equally near it is the larger. -/
def Interval.onGrid? (interval : Interval) (place : Int) : Option Digits :=
  let scaled (n : Nat) : Nat := if 0 ≤ place then n else n * powTen (-place).toNat
  let unit := if 0 ≤ place then interval.denominator * powTen place.toNat else interval.denominator
  let below : Digits := ⟨scaled interval.value / unit, place⟩
  let above : Digits := ⟨below.coefficient + 1, place⟩
  let remainder := scaled interval.value % unit
  match interval.contains below, interval.contains above with
  | true, true => some (if 2 * remainder < unit then below else above)
  | true, false => some below
  | false, true => some above
  | false, false => none

/-- The shortest decimal in an interval: seventeen digits are always enough. -/
def Interval.shortest (interval : Interval) : Digits :=
  let top := interval.leadingPlace
  ((List.range 17).findSome? fun n => interval.onGrid? (top - Int.ofNat n)).getD
    ⟨interval.value / interval.denominator, 0⟩

/-- A decimal without an exponent: a point stands only where digits follow it. -/
def Digits.positional (digits : Digits) : List Char :=
  let text := Nat.toDigits 10 digits.coefficient
  if 0 ≤ digits.exponent then text ++ List.replicate digits.exponent.toNat '0'
  else
    let places := (-digits.exponent).toNat
    let padded := text.leftpad (places + 1) '0'
    let fraction := padded.drop (padded.length - places)
    let trimmed := (fraction.reverse.dropWhile (· = '0')).reverse
    padded.take (padded.length - places) ++ (if trimmed.isEmpty then [] else '.' :: trimmed)

/-- A floating-point number in the shortest digits that read back, without an exponent. -/
def ofFloat (x : Float) : List Char :=
  let sign := if isNegative x then ['-'] else []
  if infinity < magnitude x then "NaN".toList
  else if magnitude x = infinity then sign ++ "inf".toList
  else if magnitude x = 0 then sign ++ ['0']
  else sign ++ (Interval.ofBits (magnitude x)).shortest.positional

end CrashTriage.Decimal
