import CrashTriage.Text.Split

/-!
# Scanning TOML

A scanner takes something from the start of a text or fails. Here are the scanners for what stands
between the values of a document: blanks, line ends and comments.
-/

namespace CrashTriage.Toml

/-- A computation that takes something from the start of a text, or fails. -/
abbrev Scanner := StateT (List Char) Option

namespace Scanner

/-- The next character, which is not taken; `none` at the end of the text. -/
def peek : Scanner (Option Char) := do pure (← get).head?

/-- Takes one given character. -/
def char (c : Char) : Scanner Unit := do
  match ← get with
  | d :: rest => if c = d then set rest else failure
  | [] => failure

/-- Takes the characters that pass a test, up to the first that does not. -/
def takeWhile (test : Char → Bool) : Scanner (List Char) := do
  let text ← get
  set (text.dropWhile test)
  pure (text.takeWhile test)

/-- Takes spaces and tabs. -/
def blanks : Scanner Unit := do
  let _ ← takeWhile fun c => c = ' ' || c = '\t'

end Scanner

/-- Whether a character may stand in a comment or inside quotes: no control except the tab. -/
def isTextChar (c : Char) : Bool :=
  c = '\t' || (0x20 ≤ c.toNat && c.toNat ≠ 0x7f)

/-- What follows a line end at the start of a text, if there is a line end. -/
def afterNewline? : List Char → Option (List Char)
  | '\n' :: rest => some rest
  | '\r' :: '\n' :: rest => some rest
  | _ => none

namespace Scanner

/-- Takes a comment, if there is one. -/
def comment : Scanner Unit := do
  if (← peek) = some '#' then
    let _ ← takeWhile isTextChar

/-- Takes the rest of a line that holds nothing but blanks and a comment. -/
def endOfLine : Scanner Unit := do
  blanks
  comment
  match ← get with
  | [] => pure ()
  | text =>
    match afterNewline? text with
    | some rest => set rest
    | none => failure

/-- Takes blanks, comments and line ends. -/
def space : Scanner Unit := fun text => some ((), skip text.length text)
where
  /-- What follows the blanks, comments and line ends of a text. -/
  skip : Nat → List Char → List Char
    | 0, text => text
    | fuel + 1, text =>
      match text with
      | ' ' :: rest => skip fuel rest
      | '\t' :: rest => skip fuel rest
      | '#' :: rest => skip fuel (rest.dropWhile isTextChar)
      | _ =>
        match afterNewline? text with
        | some rest => skip fuel rest
        | none => text

end Scanner

end CrashTriage.Toml
