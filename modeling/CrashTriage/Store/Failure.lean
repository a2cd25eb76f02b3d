import CrashTriage.Store.Basic

/-!
# Failures of the store

Why an operation on the store fails, and the words for each cause. A statement has limits of its
own: only so many values are bound to it, and its conditions are nested only so deep. They are met
while the statement is read, before any table is looked up; only what joins add to the conditions is
worked out later, when the joined tables have been found.
-/

namespace CrashTriage

/-- A condition that every row of a table meets. -/
inductive RowCheck where
  /-- The first occurrence is not written after the last. -/
  | occurrencesOrdered
  /-- A bucket counts at least one occurrence. -/
  | countPositive
deriving DecidableEq

/-- The condition as the schema writes it. -/
def RowCheck.text : RowCheck → String
  | .occurrencesOrdered => "first_occurrence <= last_occurrence"
  | .countPositive => "count > 0"

/-- The most values that are bound to one statement. -/
def maxBound : Nat := 32766

/-- How deep the conditions of a statement are nested at most. -/
def maxDepth : Nat := 1000

/-- Why an operation on the store fails. -/
inductive Failure where
  /-- A statement names a table that is absent. -/
  | missingTable (table : TableName)
  /-- A statement depends, through the schema, on a table that is absent. -/
  | missingRelatedTable (table : TableName)
  /-- A row is asked for by its id in a table whose rows have none. -/
  | noIds
  /-- A row refers, or would refer, to a row that is absent. -/
  | foreignKey
  /-- Another row has the same values in columns that tell rows apart. -/
  | duplicate (table : TableName) (columns : List String)
  /-- A row does not meet a condition of its table. -/
  | check (condition : RowCheck)
  /-- More values are bound to a statement than it takes. -/
  | tooManyValues
  /-- The conditions of a statement are nested deeper than it takes. -/
  | tooDeep
  /-- A sum of exact tallies leaves 64 bits. -/
  | sumOverflow
  /-- An integer is wanted from a result column that holds an approximate number. -/
  | approximateColumn (index : Nat) (column : String)
  /-- A row is wanted and there is none. -/
  | noRows
  /-- A date that the calendar's range does not hold is needed. -/
  | dateOutOfRange
  /-- No connection to the store can be had. -/
  | poolClosed
deriving DecidableEq

namespace Failure

/-- The words for a failure. -/
def message : Failure → String
  | .missingTable table => "no such table: " ++ table.text
  | .missingRelatedTable table => "no such table: main." ++ table.text
  | .noIds => "no such column: id"
  | .foreignKey => "FOREIGN KEY constraint failed"
  | .duplicate table columns =>
    "UNIQUE constraint failed: " ++ ", ".intercalate (columns.map fun c => table.text ++ "." ++ c)
  | .check condition => "CHECK constraint failed: " ++ condition.text
  | .tooManyValues => "variable number must be between ?1 and ?" ++ toString maxBound
  | .tooDeep => "Expression tree is too large (maximum depth " ++ toString maxDepth ++ ")"
  | .sumOverflow => "integer overflow"
  | .approximateColumn index column =>
    "Invalid column type Real at index: " ++ toString index ++ ", name: " ++ column
  | .noRows => "Query returned no rows"
  | .dateOutOfRange => "date out of range"
  | .poolClosed => "pool closed"

end Failure

/-- A table of the store, or the failure that names it. -/
def present {α : Type} (name : TableName) : Option α → Except Failure α
  | some table => .ok table
  | none => .error (.missingTable name)

/-- A statement to which some number of values is bound. -/
def bindable (values : Nat) : Except Failure Unit :=
  if values ≤ maxBound then .ok () else .error .tooManyValues

/-- A statement with conditions that are nested to some depth. -/
def nestable (depth : Nat) : Except Failure Unit :=
  if depth ≤ maxDepth then .ok () else .error .tooDeep

/-- A date that the calendar's range may fail to hold. -/
def inRange : Option Date → Except Failure Date
  | some date => .ok date
  | none => .error .dateOutOfRange

end CrashTriage
