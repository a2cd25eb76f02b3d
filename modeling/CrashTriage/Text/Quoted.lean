import CrashTriage.Text.Unprintable

/-!
# Quoted text

A text is quoted for a message between double quotes: quotes and backslashes are marked by a
backslash, the common controls have a letter, and every other character without a printed shape
is given by its code point in hexadecimal.
-/

namespace CrashTriage

/-- One character as it stands inside quotes. -/
def quotedChar (c : Char) : List Char :=
  if c = '\x00' then ['\\', '0']
  else if c = '\t' then ['\\', 't']
  else if c = '\n' then ['\\', 'n']
  else if c = '\r' then ['\\', 'r']
  else if c = '"' ∨ c = '\\' then ['\\', c]
  else if isUnprintable c then ['\\', 'u', '\x7b'] ++ Nat.toDigits 16 c.toNat ++ ['\x7d']
  else [c]

/-- A text between double quotes, so that it can be read back from a message. -/
def quoted (cs : List Char) : List Char :=
  '"' :: cs.flatMap quotedChar ++ ['"']

end CrashTriage
