import CrashTriage.Decimal.Shortest
import CrashTriage.Text.Numeral

/-!
# Values of settings

What a configuration file or an environment variable may hold, and how a setting that wants a text
or a number reads it. Texts, numbers and truth values turn into each other as far as that makes
sense, and dates and times turn into texts; lists and tables turn into nothing else.
-/

namespace CrashTriage.Settings

/-- A value of a setting, or a section of settings. -/
inductive Value where
  /-- What stands in a place of a list that was passed over. -/
  | nothing
  | boolean (b : Bool)
  | integer (n : Int)
  | fraction (x : Float)
  | text (s : String)
  /-- A date, a time or both, in its standard form. -/
  | moment (s : String)
  | list (items : List Value)
  | table (entries : List (String × Value))

/-- The integer nearest to a floating-point number, halves away from zero, or the nearest one to it
between `low` and `high`; what is no number gives zero. -/
def roundBetween (low high : Int) (x : Float) : Int :=
  let sign : Int := if Decimal.isNegative x then -1 else 1
  if Decimal.infinity < Decimal.magnitude x then 0
  else if Decimal.magnitude x = Decimal.infinity then max low (min high (sign * powTwo 64))
  else
    let interval := Decimal.Interval.ofBits (Decimal.magnitude x)
    let rounded := (2 * interval.value + interval.denominator) / (2 * interval.denominator)
    max low (min high (sign * rounded))

/-- A word that stands for a truth value. -/
def truthWord? (s : String) : Option Bool :=
  let word := s.toLower
  if word = "true" ∨ word = "on" ∨ word = "yes" then some true
  else if word = "false" ∨ word = "off" ∨ word = "no" then some false
  else none

/-- A truth value as a number. -/
def ofBool (b : Bool) : Int := if b then 1 else 0

namespace Value

/-- The text of a value. -/
def toText? : Value → Option String
  | .boolean b => some (if b then "true" else "false")
  | .integer n => some (String.ofList (Numeral.ofInt n))
  | .fraction x => some (String.ofList (Decimal.ofFloat x))
  | .text s | .moment s => some s
  | .nothing | .list _ | .table _ => none

/-- The signed integer of 64 bits that a value stands for. -/
def toInt? : Value → Option Int
  | .boolean b => some (ofBool b)
  | .integer n => some n
  | .fraction x => some (roundBetween Numeral.minInt64 Numeral.maxInt64 x)
  | .text s =>
    match truthWord? s with
    | some b => some (ofBool b)
    | none => Numeral.int64? s.toList
  | .nothing | .moment _ | .list _ | .table _ => none

/-- The unsigned integer of 64 bits that a value stands for. -/
def toNat? : Value → Option Nat
  | .boolean b => some (ofBool b).toNat
  | .integer n => if 0 ≤ n then some n.toNat else none
  | .fraction x => some (roundBetween 0 Numeral.maxNat64 x).toNat
  | .text s =>
    match truthWord? s with
    | some b => some (ofBool b).toNat
    | none => Numeral.nat64? s.toList
  | .nothing | .moment _ | .list _ | .table _ => none

/-- The port number that a value stands for. -/
def toPort? (value : Value) : Option Nat :=
  value.toNat?.filter (· ≤ 65535)

end Value

end CrashTriage.Settings
