import CrashTriage.Ranking.Selection
import CrashTriage.Store.Failure

/-!
# The conditions of a statement

The conditions of a ranking are read one after the other, each bound to its values and joined to
those before it, and the first one that goes beyond a limit of statements fails. A list without
members never holds: it makes a constant of the whole conjunction, which is nested no deeper by what
follows.
-/

namespace CrashTriage

/-- The number of values that are bound to a selection of releases. -/
def ReleaseSelection.bound : ReleaseSelection → Nat
  | .all => 0
  | .only ids => ids.length

/-- The number of values that are bound to a clause. -/
def Clause.bound : Clause → Nat
  | .compare _ _ (.column _) => 0
  | .compare _ _ _ => 1
  | .oneOf _ values => values.length

/-- A conjunction of clauses. -/
inductive Conjunction where
  /-- Of none. -/
  | empty
  /-- Of some clauses, one of which never holds. -/
  | never
  /-- Of some clauses, and nested to a depth. -/
  | nested (depth : Nat)
deriving DecidableEq

namespace Conjunction

/-- A conjunction with one more clause. A clause compares a column of a table, which is a depth of
3, with values. -/
def and : Conjunction → Clause → Conjunction
  | _, .oneOf _ [] => .never
  | .empty, _ => .nested 3
  | .never, _ => .never
  | .nested depth, _ => .nested (depth + 1)

/-- How deep a conjunction is nested. -/
def depth : Conjunction → Nat
  | .empty => 0
  | .never => 1
  | .nested depth => depth

/-- How deep it is nested together with the conditions of the two joins of a ranking. -/
def joined : Conjunction → Nat
  | .empty => 4
  | .never => 5
  | .nested depth => depth + 2

end Conjunction

/-- What has been read of a statement: the number of values bound to it and its clauses. -/
structure Reading where
  bound : Nat := 0
  conjunction : Conjunction := .empty

namespace Reading

/-- The statement with one more clause. -/
def next (reading : Reading) (clause : Clause) : Reading :=
  ⟨reading.bound + clause.bound, reading.conjunction.and clause⟩

/-- Reads one more clause. The values of a list are read before the clause ends, and a single value
together with its end. -/
def clause (reading : Reading) (clause : Clause) : Except Failure Reading :=
  let after := reading.next clause
  match clause with
  | .compare .. => do
    nestable after.conjunction.depth
    bindable after.bound
    pure after
  | .oneOf .. => do
    bindable after.bound
    nestable after.conjunction.depth
    pure after

end Reading

end CrashTriage
