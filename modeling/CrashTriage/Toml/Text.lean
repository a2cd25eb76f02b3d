import CrashTriage.Toml.Scanner

/-!
# TOML strings

Strings stand between double quotes, where a backslash begins an escape, or between single quotes,
where every character stands for itself. Three quotes in a row begin a string of several lines: a
line end just after them does not count, and one or two quotes may stand before the last three.
-/

namespace CrashTriage.Toml

/-- The value of a hexadecimal digit. -/
def hexDigit? (c : Char) : Option Nat :=
  if c.isDigit then some (c.toNat - 48)
  else if 'a' ≤ c ∧ c ≤ 'f' then some (c.toNat - 87)
  else if 'A' ≤ c ∧ c ≤ 'F' then some (c.toNat - 55)
  else none

/-- The number that hexadecimal digits denote. -/
def hexNumber? (cs : List Char) : Option Nat :=
  cs.foldlM (fun n c => (hexDigit? c).map (16 * n + ·)) 0

/-- The character with a given code point. -/
def charOf? (n : Nat) : Option Char :=
  if n.isValidChar then some (Char.ofNat n) else none

/-- The character that an escape stands for, and what follows it. The text begins after the
backslash. -/
def escape? : List Char → Option (Char × List Char)
  | 'b' :: rest => some ('\x08', rest)
  | 't' :: rest => some ('\t', rest)
  | 'n' :: rest => some ('\n', rest)
  | 'f' :: rest => some ('\x0c', rest)
  | 'r' :: rest => some ('\r', rest)
  | '"' :: rest => some ('"', rest)
  | '\\' :: rest => some ('\\', rest)
  | 'u' :: rest => fixed 4 rest
  | 'U' :: rest => fixed 8 rest
  | _ => none
where
  /-- The character whose code point is given by a fixed number of digits. -/
  fixed (width : Nat) (rest : List Char) : Option (Char × List Char) := do
    if rest.length < width then failure
    let c ← charOf? (← hexNumber? (rest.take width))
    pure (c, rest.drop width)

/-- The content of a string between double quotes and what follows it. -/
def basicString : Nat → List Char → Option (List Char × List Char)
  | 0, _ => none
  | fuel + 1, text =>
    match text with
    | '"' :: rest => some ([], rest)
    | '\\' :: rest => do
      let (c, rest) ← escape? rest
      let (cs, rest) ← basicString fuel rest
      pure (c :: cs, rest)
    | c :: rest => do
      if !isTextChar c then failure
      let (cs, rest) ← basicString fuel rest
      pure (c :: cs, rest)
    | [] => none

/-- The content of a string between single quotes and what follows it. -/
def literalString : List Char → Option (List Char × List Char)
  | '\'' :: rest => some ([], rest)
  | c :: rest => do
    if !isTextChar c then failure
    let (cs, rest) ← literalString rest
    pure (c :: cs, rest)
  | [] => none

/-- What follows the blanks and line ends of a text. -/
def skipLines : Nat → List Char → List Char
  | 0, text => text
  | fuel + 1, text =>
    match text with
    | ' ' :: rest => skipLines fuel rest
    | '\t' :: rest => skipLines fuel rest
    | _ =>
      match afterNewline? text with
      | some rest => skipLines fuel rest
      | none => text

/-- The end of a string of several lines: the quotes that still belong to it, and what follows the
last three. -/
def closingQuotes? (quote : Char) (text : List Char) : Option (List Char × List Char) :=
  let quotes := (text.takeWhile (· = quote)).take 5
  if quotes.length < 3 then none
  else some (quotes.drop 3, text.drop quotes.length)

/-- The content of a string of several lines and what follows it. With escapes, a backslash at the
end of a line takes the line end and all blanks and line ends after it away. -/
def multilineString (quote : Char) (escapes : Bool) :
    Nat → List Char → Option (List Char × List Char)
  | 0, _ => none
  | fuel + 1, text =>
    match closingQuotes? quote text with
    | some closed => some closed
    | none =>
      match afterNewline? text with
      | some rest => do
        let (cs, rest) ← multilineString quote escapes fuel rest
        pure ('\n' :: cs, rest)
      | none =>
        match text with
        | [] => none
        | c :: rest =>
          if escapes && c = '\\' then
            match afterNewline? (rest.dropWhile fun c => c = ' ' || c = '\t') with
            | some lines => multilineString quote escapes fuel (skipLines lines.length lines)
            | none => do
              let (c, rest) ← escape? rest
              let (cs, rest) ← multilineString quote escapes fuel rest
              pure (c :: cs, rest)
          else do
            if !isTextChar c then failure
            let (cs, rest) ← multilineString quote escapes fuel rest
            pure (c :: cs, rest)

namespace Scanner

/-- Takes a string on one line. -/
def quotedText : Scanner String := fun text =>
  match text with
  | '"' :: rest => (basicString text.length rest).map fun (cs, rest) => (String.ofList cs, rest)
  | '\'' :: rest => (literalString rest).map fun (cs, rest) => (String.ofList cs, rest)
  | _ => none

/-- Takes a string, of one line or of several. -/
def string : Scanner String := fun text =>
  match text with
  | '"' :: '"' :: '"' :: rest => several '"' true rest
  | '\'' :: '\'' :: '\'' :: rest => several '\'' false rest
  | _ => quotedText text
where
  /-- Takes the content of a string of several lines. -/
  several (quote : Char) (escapes : Bool) (rest : List Char) : Option (String × List Char) :=
    let body := (afterNewline? rest).getD rest
    (multilineString quote escapes (body.length + 1) body).map fun (cs, rest) =>
      (String.ofList cs, rest)

end Scanner

end CrashTriage.Toml
