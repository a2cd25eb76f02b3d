import CrashTriage.Calendar.Text
import CrashTriage.Decimal.Reading
import CrashTriage.Settings.Value
import CrashTriage.Toml.Text

/-!
# TOML numbers, truth values and times

The values without quotes or brackets. An underscore may stand between two digits of a number.
Dates and times are brought into their standard form.
-/

namespace CrashTriage.Toml

open Settings (Value)

/-! ### Numbers -/

/-- Digits without the underscores between them. -/
def ungroup? (isDigit : Char → Bool) (cs : List Char) : Option (List Char) :=
  let groups := splitOn '_' cs
  if groups.all fun group => !group.isEmpty && group.all isDigit then some groups.flatten else none

/-- The digits of an unsigned decimal integer, which begins with zero only if it is zero. -/
def wholeDigits? (cs : List Char) : Option (List Char) :=
  match cs with
  | ['0'] => some ['0']
  | '0' :: _ => none
  | _ => ungroup? Char.isDigit cs

/-- An integer that fits in 64 bits. -/
def fitting (n : Int) : Option Value :=
  if Numeral.FitsInt64 n then some (.integer n) else none

/-- An unsigned integer in another base. -/
def basedInteger? (base : Nat) (cs : List Char) : Option Value := do
  let digits ← ungroup? (fun c => (hexDigit? c).any (· < base)) cs
  let n ← digits.foldlM (fun n c => (hexDigit? c).map (base * n + ·)) 0
  fitting (Int.ofNat n)

/-- An integer. -/
def integer? (cs : List Char) : Option Value :=
  match cs with
  | '0' :: 'x' :: digits => basedInteger? 16 digits
  | '0' :: 'o' :: digits => basedInteger? 8 digits
  | '0' :: 'b' :: digits => basedInteger? 2 digits
  | _ => do
    let (negative, rest) := Decimal.takeSign cs
    let n := Nat.ofDigitChars 10 (← wholeDigits? rest) 0
    fitting (if negative then -Int.ofNat n else Int.ofNat n)

/-- A part of a number that an introducing character may begin: nothing if the text is empty. -/
def optionalPart? (introduces : Char → Bool) (cs : List Char) : Option (Option (List Char)) :=
  match cs with
  | [] => some none
  | c :: rest => if introduces c then some (some rest) else none

/-- A floating-point number: a whole part and a fraction, an exponent, or both. A number too large
for floating point is an error. -/
def fraction? (cs : List Char) : Option Value := do
  let (negative, rest) := Decimal.takeSign cs
  if rest = "inf".toList then return .fraction (Decimal.signed negative (1 / 0))
  if rest = "nan".toList then return .fraction (Decimal.signed negative (0 / 0))
  let isExponent (c : Char) : Bool := c = 'e' || c = 'E'
  let mantissa := rest.takeWhile (!isExponent ·)
  let exponent ← optionalPart? isExponent (rest.dropWhile (!isExponent ·))
  let whole ← wholeDigits? (mantissa.takeWhile (· ≠ '.'))
  let decimals ← optionalPart? (· = '.') (mantissa.dropWhile (· ≠ '.'))
  if exponent.isNone && decimals.isNone then failure
  let decimals ← match decimals with
    | none => pure []
    | some digits => ungroup? Char.isDigit digits
  let power : Int ← match exponent with
    | none => pure 0
    | some cs =>
      let (below, digits) := Decimal.takeSign cs
      let n := Int.ofNat (Nat.ofDigitChars 10 (← ungroup? Char.isDigit digits) 0)
      pure (if below then -n else n)
  let x := Decimal.signed negative (Decimal.ofParts whole decimals power)
  if x == 1 / 0 then failure
  pure (.fraction x)

/-! ### Dates and times -/

/-- The number that two digits denote, if it is not above a bound. -/
def twoDigits? (bound : Nat) (tens units : Char) : Option Nat :=
  (Numeral.natural? [tens, units]).filter (· ≤ bound)

/-- A date at the start of a text, and what follows it. -/
def date? : List Char → Option (List Char × List Char)
  | y₁ :: y₂ :: y₃ :: y₄ :: '-' :: m₁ :: m₂ :: '-' :: d₁ :: d₂ :: rest => do
    let text := [y₁, y₂, y₃, y₄, '-', m₁, m₂, '-', d₁, d₂]
    let _ ← Date.ofText? text
    pure (text, rest)
  | _ => none

/-- The fraction of a second at the start of a text, up to nanoseconds and without zeros at its
end, and what follows it. -/
def secondFraction? : List Char → Option (List Char × List Char)
  | '.' :: rest =>
    let digits := rest.takeWhile Char.isDigit
    let kept := ((digits.take 9).reverse.dropWhile (· = '0')).reverse
    if digits.isEmpty then none
    else some (if kept.isEmpty then [] else '.' :: kept, rest.dropWhile Char.isDigit)
  | rest => some ([], rest)

/-- A time of day at the start of a text, and what follows it. -/
def time? : List Char → Option (List Char × List Char)
  | h₁ :: h₂ :: ':' :: m₁ :: m₂ :: ':' :: s₁ :: s₂ :: rest => do
    let _ ← twoDigits? 23 h₁ h₂
    let _ ← twoDigits? 59 m₁ m₂
    let _ ← twoDigits? 60 s₁ s₂
    let (fraction, rest) ← secondFraction? rest
    pure ([h₁, h₂, ':', m₁, m₂, ':', s₁, s₂] ++ fraction, rest)
  | _ => none

/-- An offset from universal time that makes up a whole text, which may be empty. -/
def offset? : List Char → Option (List Char)
  | [] => some []
  | ['Z'] | ['z'] => some ['Z']
  | [sign, h₁, h₂, ':', m₁, m₂] => do
    if sign ≠ '+' ∧ sign ≠ '-' then failure
    let hours ← twoDigits? 23 h₁ h₂
    let minutes ← twoDigits? 59 m₁ m₂
    pure [if hours = 0 ∧ minutes = 0 then '+' else sign, h₁, h₂, ':', m₁, m₂]
  | _ => none

/-- A time of day and an offset that make up a whole text. -/
def timeAndOffset? (cs : List Char) : Option (List Char) := do
  let (time, rest) ← time? cs
  pure (time ++ (← offset? rest))

/-- A date, a time, or a date with a time, that makes up a whole text. -/
def moment? (cs : List Char) : Option Value :=
  match date? cs with
  | some (date, []) => some (.moment (String.ofList date))
  | some (date, c :: rest) => do
    if c ≠ 'T' ∧ c ≠ 't' ∧ c ≠ ' ' then failure
    pure (.moment (String.ofList (date ++ 'T' :: (← timeAndOffset? rest))))
  | none => do
    let (time, rest) ← time? cs
    if rest.isEmpty then pure (.moment (String.ofList time)) else failure

/-! ### Scalars -/

/-- Whether a character may stand in a value without quotes. -/
def isScalarChar (c : Char) : Bool :=
  c.isAlphanum || c = '+' || c = '-' || c = '_' || c = '.' || c = ':'

/-- The value that a text without quotes denotes. -/
def scalar? (cs : List Char) : Option Value :=
  if cs = "true".toList then some (.boolean true)
  else if cs = "false".toList then some (.boolean false)
  else integer? cs <|> fraction? cs <|> moment? cs

/-- Takes a value without quotes or brackets. A space may stand between a date and a time. -/
def Scanner.scalar : Scanner Value := do
  let word ← takeWhile isScalarChar
  match ← get with
  | ' ' :: c :: rest =>
    if c.isDigit && (date? word).any (·.2.isEmpty) then
      set (c :: rest)
      let time ← takeWhile isScalarChar
      scalar? (word ++ ' ' :: time)
    else scalar? word
  | _ => scalar? word

end CrashTriage.Toml
