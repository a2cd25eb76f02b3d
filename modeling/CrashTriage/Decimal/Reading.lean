import CrashTriage.Text.Numeral

/-!
# Reading decimal fractions

A decimal fraction is a run of digits with a power of ten; the floating-point number it denotes is
the nearest one. Texts are read in the plain form: an optional sign, digits with an optional
decimal point, an optional exponent, or one of the words for infinity and for no number.
-/

namespace CrashTriage.Decimal

/-- The floating-point number nearest to `mantissa * 10 ^ exponent`. A power far outside the range
of floating-point numbers is settled by the number of digits. -/
def nearest (mantissa : Nat) (exponent : Int) : Float :=
  let places : Int := (Nat.toDigits 10 mantissa).length + exponent
  if mantissa = 0 ∨ places < -400 then 0
  else if 400 < places then 1 / 0
  else Float.ofScientific mantissa (exponent < 0) exponent.natAbs

/-- A floating-point number with a sign in front. -/
def signed (negative : Bool) (x : Float) : Float := if negative then -x else x

/-- A sign in front of a text, and what follows it. -/
def takeSign : List Char → Bool × List Char
  | '-' :: rest => (true, rest)
  | '+' :: rest => (false, rest)
  | cs => (false, cs)

/-- The number that digits before and after a decimal point, and an exponent, denote. -/
def ofParts (whole fraction : List Char) (exponent : Int) : Float :=
  nearest (Nat.ofDigitChars 10 (whole ++ fraction) 0) (exponent - fraction.length)

/-- An exponent that makes up a whole text: nothing, or a letter, an optional sign and digits. -/
def exponent? : List Char → Option Int
  | [] => some 0
  | c :: rest => if c = 'e' ∨ c = 'E' then Numeral.integer? rest else none

/-- An unsigned decimal fraction: digits on at least one side of the optional point. -/
def unsigned? (cs : List Char) : Option Float :=
  let whole := cs.takeWhile Char.isDigit
  match cs.dropWhile Char.isDigit with
  | '.' :: rest =>
    let fraction := rest.takeWhile Char.isDigit
    if whole.isEmpty && fraction.isEmpty then none
    else (exponent? (rest.dropWhile Char.isDigit)).map (ofParts whole fraction)
  | rest => if whole.isEmpty then none else (exponent? rest).map (ofParts whole [])

/-- The floating-point number that a text denotes. -/
def float? (cs : List Char) : Option Float :=
  let (negative, rest) := takeSign cs
  let word := rest.map Char.toLower
  if word = "inf".toList ∨ word = "infinity".toList then some (signed negative (1 / 0))
  else if word = "nan".toList then some (signed negative (0 / 0))
  else (unsigned? rest).map (signed negative)

end CrashTriage.Decimal
