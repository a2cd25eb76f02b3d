import CrashTriage.Text.Numeral
import CrashTriage.Text.Split

/-!
# Paths to settings

Where in the whole of the settings a value belongs. A path is written as keys with points between
them, and each key may have places in a list after it, between square brackets:
`server.ports[0]`.
-/

namespace CrashTriage.Settings

/-- A step on the way to a setting. -/
inductive Step where
  /-- To what a table holds under a key. -/
  | key (name : String)
  /-- To a place in a list. Places are counted from zero, and negative ones back from the end. -/
  | place (index : Int)
deriving DecidableEq

/-- The steps from the whole of the settings to one of them. -/
abbrev Path := List Step

namespace Path

/-- Whether a character may stand in a key of a path. -/
def isKeyChar (c : Char) : Bool := c.isAlphanum || c = '_' || c = '-' || c = ' '

/-- A text without the spaces and tabs at both ends. -/
def strip (cs : List Char) : List Char :=
  let isGap (c : Char) : Bool := c = ' ' || c = '\t'
  ((cs.dropWhile isGap).reverse.dropWhile isGap).reverse

/-- The place that a text between square brackets denotes: an integer of 64 bits without a plus
sign. -/
def index? (cs : List Char) : Option Int :=
  match strip cs with
  | '+' :: _ => none
  | numeral => Numeral.int64? numeral

/-- The places that a text of square brackets denotes, one for each pair of them. -/
def places? (cs : List Char) : Option (List Int) :=
  match (splitOn ']' cs).reverse with
  | [] :: groups => groups.reverse.mapM fun
    | '[' :: index => index? index
    | _ => none
  | _ => none

/-- The steps that a key and the places after it denote. -/
def part? (cs : List Char) : Option Path := do
  let name := cs.takeWhile isKeyChar
  if name.isEmpty then failure
  let places ← places? (cs.dropWhile isKeyChar)
  pure (.key (String.ofList name) :: places.map .place)

/-- The path that a text denotes, if it is the text of a path. -/
def ofText? (cs : List Char) : Option Path :=
  ((splitOn '.' cs).mapM part?).map List.flatten

/-- The path that a text stands for: the one it denotes, or else a single step to the whole text as
a key. -/
def ofText (cs : List Char) : Path :=
  (ofText? cs).getD [.key (String.ofList cs)]

end Path

end CrashTriage.Settings
