import CrashTriage.Decimal.Reading
import CrashTriage.Settings.Path
import CrashTriage.Settings.Value

/-!
# Layers of settings

Settings come in layers, each laid over the ones before: first a configuration file, then the
environment. A layer is a list of assignments of values to paths. A table laid over a table is
laid over it entry by entry, and any other value takes the place of what was there. Keys are
compared without regard to case. Where assignments meet, their order decides: here they come in the
order of a list, although the maps that hold entries and variables have no order of their own. Main
statements: what was put under a key is found there, and the other keys keep what they had.
-/

namespace CrashTriage.Settings

/-- The lower case of a key: ASCII letters, and the sign that falls together with one of them. -/
def lowerKey (key : String) : String :=
  String.ofList (key.toList.map fun c => if c = '\u212a' then 'k' else c.toLower)

/-- Entries with another value in the place of the one with a key, or one more value. -/
def putEntry (key : String) (value : Value) : List (String × Value) → List (String × Value)
  | [] => [(key, value)]
  | (k, v) :: rest => if k = key then (k, value) :: rest else (k, v) :: putEntry key value rest

theorem lookup_putEntry (key : String) (value : Value) (entries : List (String × Value)) :
    (putEntry key value entries).lookup key = some value := by
  induction entries with
  | nil => simp [putEntry]
  | cons entry entries ih =>
    obtain ⟨k, v⟩ := entry
    by_cases h : k = key
    · simp [putEntry, h]
    · have : (key == k) = false := by simpa using Ne.symm h
      simp [putEntry, h, List.lookup_cons, this, ih]

/-- What stands under the other keys stays. -/
theorem lookup_putEntry_of_ne {key other : String} (ne : other ≠ key) (value : Value)
    (entries : List (String × Value)) :
    (putEntry key value entries).lookup other = entries.lookup other := by
  have apart : (other == key) = false := by simpa using ne
  induction entries with
  | nil => simp [putEntry, List.lookup_cons, apart]
  | cons entry entries ih =>
    obtain ⟨k, v⟩ := entry
    by_cases h : k = key
    · simp [putEntry, List.lookup_cons, h, apart]
    · simp [putEntry, List.lookup_cons, h, ih]

/-! ### Places in a list -/

/-- The number of items for which there is room in a list: they take up no more bytes than the
greatest integer of 64 bits says, and each takes up 96 bytes. -/
def listCapacity : Int := Numeral.maxInt64 / 96

/-- The place that an index stands for in a list of some length. A negative index counts back from
the end and must not lead beyond the start, and no index may lead beyond the capacity. -/
def placeOf? (length : Nat) (index : Int) : Option Nat :=
  let place := if 0 ≤ index then index else index + length
  if 0 ≤ place ∧ place < listCapacity then some place.toNat else none

/-- Items with another value in one place. The places passed over to reach it hold nothing. -/
def putItem (place : Nat) (value : Value) (items : List Value) : List Value :=
  (items ++ List.replicate (place + 1 - items.length) Value.nothing).set place value

namespace Value

/-! ### Laying values over values -/

/-- The items of a list; every other value has none. -/
def items : Value → List Value
  | .list items => items
  | _ => []

/-- The entries of a table; every other value has none. -/
def entries : Value → List (String × Value)
  | .table entries => entries
  | _ => []

/-- The value under a key, and an empty table when there is none. -/
def atKey (value : Value) (key : String) : Value :=
  (value.entries.lookup key).getD (.table [])

mutual

/-- A value laid over another. -/
def overlay (old : Value) : Value → Value
  | .table [] => old
  | .table entries => .table (overlayEntries old.entries entries)
  | new => new

/-- Entries laid over others, one after the other. -/
def overlayEntries (old : List (String × Value)) :
    List (String × Value) → List (String × Value)
  | [] => old
  | (key, new) :: rest =>
    let key := lowerKey key
    let value := overlay ((old.lookup key).getD (.table [])) new
    overlayEntries (putEntry key value old) rest

end

/-- A value laid over what stands at the end of a path. A value for a place in a list takes that
place as it is. There is none when the path leads to a place that no list has. -/
def overlayAt (path : Path) (new old : Value) : Option Value :=
  match path with
  | [] => some (overlay old new)
  | .key name :: path => do
    let key := lowerKey name
    let value ← overlayAt path new (old.atKey key)
    pure (.table (putEntry key value old.entries))
  | .place index :: path => do
    let place ← placeOf? old.items.length index
    let value ← if path.isEmpty then pure new
      else overlayAt path new (old.items.getD place .nothing)
    pure (.list (putItem place value old.items))

end Value

/-! ### Assignments -/

/-- A value for the setting or section at the end of a path. -/
structure Assignment where
  path : Path
  value : Value

/-- The assignments of a configuration file: one for each entry of the whole, in their order. -/
def fileAssignments (file : Value) : List Assignment :=
  file.entries.map fun (key, value) => ⟨Path.ofText key.toList, value⟩

/-- How the names of the variables begin that hold settings. -/
def environmentPrefix : List Char := "crashrank__".toList

/-- A text with a point in the place of each two underscores. -/
def pointed : List Char → List Char
  | '_' :: '_' :: rest => '.' :: pointed rest
  | c :: rest => c :: pointed rest
  | [] => []

/-- The value of a variable: a truth value, an integer, a number with a fraction, or else its
text. -/
def environmentValue (text : String) : Value :=
  let word := lowerKey text
  if word = "true" then .boolean true
  else if word = "false" then .boolean false
  else
    match Numeral.int64? text.toList, Decimal.float? text.toList with
    | some n, _ => .integer n
    | none, some x => .fraction x
    | none, none => .text text

/-- The assignments of an environment, given as names and texts in some order. -/
def environmentAssignments (environment : List (String × String)) : List Assignment :=
  environment.filterMap fun (name, text) =>
    let name := (lowerKey name).toList
    if environmentPrefix.isPrefixOf name then
      some ⟨Path.ofText (pointed (name.drop environmentPrefix.length)), environmentValue text⟩
    else none

/-- The value that assignments build up, each laid over those before it. There is none when one of
them leads to a place that no list has. -/
def layered (assignments : List Assignment) : Option Value :=
  assignments.foldlM (fun whole layer => Value.overlayAt layer.path layer.value whole) (.table [])

end CrashTriage.Settings
