import CrashTriage.Store.Failure

/-!
# References between tables

Which tables refer to which, and what becomes of the referring rows when the row they refer to is
removed. A statement that writes a table needs every table that its rows refer to, and so does a
removal for every table that it cascades to; of these the one created last is looked at first.
-/

namespace CrashTriage

/-- What becomes of the rows that refer to a removed row. -/
inductive OnRemoval where
  /-- The removal fails. -/
  | refuse
  /-- The referring rows are removed too. -/
  | cascade
  /-- The referring rows refer to nothing. -/
  | detach
deriving DecidableEq

namespace TableName

/-- The tables that the rows of a table refer to, the reference declared last first. -/
def parents : TableName → List TableName
  | .releases => [.opsys]
  | .components => [.opsys]
  | .componentLinks => [.components, .problems]
  | .releaseLinks => [.releases, .problems]
  | .reports => [.components, .problems]
  | .history _ => [.releases, .reports]
  | _ => []

/-- What becomes of the rows of one table when the rows of another that they refer to are removed;
`none` when they refer to none there. -/
def onRemoval (parent child : TableName) : Option OnRemoval :=
  match parent, child with
  | .opsys, .releases | .opsys, .components => some .refuse
  | .releases, .releaseLinks | .releases, .history _ => some .refuse
  | .components, .componentLinks | .components, .reports => some .refuse
  | .problems, .componentLinks | .problems, .releaseLinks => some .cascade
  | .problems, .reports => some .detach
  | .reports, .history _ => some .cascade
  | _, _ => none

end TableName

namespace Store

/-- Fails when one of the tables that a table refers to is absent. -/
def requireParents (store : Store) (table : TableName) : Except Failure Unit :=
  match table.parents.find? fun parent => !store.has parent with
  | some parent => .error (.missingRelatedTable parent)
  | none => .ok ()

/-- The tables whose rows go with the rows of a table, the one created last first. -/
def cascades (store : Store) (table : TableName) : List TableName :=
  store.created.filter fun child => table.onRemoval child = some .cascade

/-- Fails when a removal of rows reaches, by cascade, a table one of whose own references leads to
an absent table. -/
def requireCascades (store : Store) (table : TableName) : Except Failure Unit :=
  (store.cascades table).forM store.requireParents

end Store

end CrashTriage
