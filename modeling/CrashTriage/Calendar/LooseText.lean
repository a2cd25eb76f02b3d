import CrashTriage.Calendar.Text
import CrashTriage.Text.Blank

/-!
# Dates written loosely

The reading of a date as people type it: blanks may stand before each number, before each hyphen
and at the end, month and day may have one digit, and a year without a sign has one to four
digits. A signed year may have any number of them.
-/

namespace CrashTriage.Date

/-- The number that the digits at the start of a text denote, and what follows them. With a limit
at most so many digits are taken. -/
def leadingNumber? (limit : Option Nat) (cs : List Char) : Option (Nat × List Char) :=
  let run := cs.takeWhile Char.isDigit
  let digits := match limit with
    | some n => run.take n
    | none => run
  (Numeral.natural? digits).map fun n => (n, cs.drop digits.length)

/-- A year at the start of a text, after blanks. -/
def looseYear? (cs : List Char) : Option (Int × List Char) :=
  match trimStart cs with
  | '-' :: rest => (leadingNumber? none rest).map fun (n, rest) => (-Int.ofNat n, rest)
  | '+' :: rest => (leadingNumber? none rest).map fun (n, rest) => (Int.ofNat n, rest)
  | rest => (leadingNumber? (some 4) rest).map fun (n, rest) => (Int.ofNat n, rest)

/-- A hyphen at the start of a text, after blanks, and one or two digits, after blanks. -/
def hyphenNumber? (cs : List Char) : Option (Nat × List Char) :=
  match trimStart cs with
  | '-' :: rest => leadingNumber? (some 2) (trimStart rest)
  | _ => none

/-- The date that a text denotes when it is read loosely. -/
def ofLooseText? (cs : List Char) : Option Date := do
  let (year, cs) ← looseYear? cs
  let (month, cs) ← hyphenNumber? cs
  let (day, cs) ← hyphenNumber? cs
  if trimStart cs = [] then ofYearMonthDay? year month day else none

end CrashTriage.Date
