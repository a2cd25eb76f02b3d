import CrashTriage.Store.Write

/-!
# Removing rows and tables

A row is removed with what the schema removes along with it: links go with their problem and
buckets with their report, reports of a removed problem stay and belong to none, and a row that
others depend on otherwise cannot be removed. To drop a table is to remove all its rows and then
the table.
-/

namespace CrashTriage

/-- A report that belongs to no problem any more if the id of its problem passes a test. -/
def Report.detach (gone : Int → Bool) (report : Report) : Report :=
  if report.problem.any gone then { report with problem := none } else report

@[simp] theorem Report.id_detach (gone : Int → Bool) (report : Report) :
    (report.detach gone).id = report.id := by
  unfold detach; split <;> rfl

namespace Store

/-- The store without the rows of a table whose ids pass a test, and without or detached from what
refers to them. -/
def removeRows (store : Store) (table : TableName) (gone : Int → Bool) : Except Failure Store :=
  match table with
  | .opsys =>
    if (rowsOf store.releases).any (gone ·.opsys) || (rowsOf store.components).any (gone ·.opsys)
    then .error .foreignKey
    else .ok { store with opsys := store.opsys.map (·.filter (!gone ·.id)) }
  | .releases =>
    if (entriesOf store.releaseLinks).any (gone ·.release)
      || (store.buckets .daily).any (gone ·.release)
      || (store.buckets .weekly).any (gone ·.release)
      || (store.buckets .monthly).any (gone ·.release)
    then .error .foreignKey
    else .ok { store with releases := store.releases.map (·.filter (!gone ·.id)) }
  | .components =>
    if (entriesOf store.componentLinks).any (gone ·.component)
      || (rowsOf store.reports).any (gone ·.component)
    then .error .foreignKey
    else .ok { store with components := store.components.map (·.filter (!gone ·.id)) }
  | .problems =>
    .ok { store with
      problems := store.problems.map (·.filter (!gone ·.id))
      componentLinks := store.componentLinks.map (·.filter (!gone ·.problem))
      releaseLinks := store.releaseLinks.map (·.filter (!gone ·.problem))
      reports := store.reports.map (·.modify (Report.detach gone) (Report.id_detach gone)) }
  | .reports =>
    .ok { store with
      reports := store.reports.map (·.filter (!gone ·.id))
      history := store.history.map (·.filter (!gone ·.report)) }
  | .migrations =>
    .ok { store with migrations := store.migrations.map fun log =>
      { schema := log.schema && !gone 1, indexes := log.indexes && !gone 2 } }
  | .componentLinks | .releaseLinks | .history _ => .ok store

/-- Whether the rows of a table have ids. -/
def hasIds : TableName → Bool
  | .componentLinks | .releaseLinks | .history _ => false
  | _ => true

/-- The ids of the rows of a table. -/
def ids (store : Store) : TableName → List Int
  | .migrations => (store.migrations.map fun log => log.rows.map (·.1)).getD []
  | .opsys => (rowsOf store.opsys).map (·.id)
  | .releases => (rowsOf store.releases).map (·.id)
  | .components => (rowsOf store.components).map (·.id)
  | .problems => (rowsOf store.problems).map (·.id)
  | .reports => (rowsOf store.reports).map (·.id)
  | .componentLinks | .releaseLinks | .history _ => []

/-- Removes the row of a table with a given id, if there is one, and gives the number of rows
removed from that table. -/
def delete (table : TableName) (id : Int) : StoreM Nat := .statement fun store => do
  if !store.has table then throw (.missingTable table)
  if !hasIds table then throw .noIds
  store.requireParents table
  store.requireCascades table
  if id ∈ store.ids table then
    let changed ← store.removeRows table (· = id)
    pure (1, changed)
  else pure (0, store)

/-- The store without the contents of a table, which counts as absent from now on. -/
def discard (store : Store) : TableName → Store
  | .migrations => { store with migrations := none }
  | .opsys => { store with opsys := none }
  | .releases => { store with releases := none }
  | .components => { store with components := none }
  | .problems => { store with problems := none }
  | .componentLinks => { store with componentLinks := none }
  | .releaseLinks => { store with releaseLinks := none }
  | .reports => { store with reports := none }
  | .history granularity => { store with history := store.history.set granularity none }

/-- The store without a table. -/
def without (store : Store) (table : TableName) : Store :=
  { store.discard table with created := store.created.erase table }

/-- Drops a table, after all its rows have been removed. -/
def drop (table : TableName) : StoreM Unit := .statement fun store => do
  if !store.has table then throw (.missingTable table)
  store.requireCascades table
  let emptied ← store.removeRows table (· ∈ store.ids table)
  pure ((), emptied.without table)

end Store

end CrashTriage
