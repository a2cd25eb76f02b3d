import CrashTriage.Store.Failure

/-!
# The contents of a table

A table as a list of rows of cells, in ascending order of the columns that tell its rows apart.
-/

namespace CrashTriage

/-- A value in a row. -/
inductive Cell where
  | integer (n : Int)
  | text (s : String)
  | approximate (x : Float)
  | empty

/-- A tally as a cell. -/
def Tally.cell : Tally → Cell
  | .exact n => .integer n
  | .approximate x => .approximate x

/-- An optional number as a cell. -/
def Cell.ofOption : Option Int → Cell
  | some n => .integer n
  | none => .empty

/-- A date as a cell. -/
def Date.cell (date : Date) : Cell := .text (toString date)

/-- Whether one pair of ids comes before another, or is the same. -/
def idsLE (a b : Int × Int) : Bool :=
  a.1 < b.1 || (a.1 = b.1 && a.2 ≤ b.2)

/-- Whether one bucket comes before another by report, release and written start, or is the
same. -/
def Bucket.keyLE (a b : Bucket) : Bool :=
  if a.report = b.report ∧ a.release = b.release then !b.start.isWrittenBefore a.start
  else idsLE (a.report, a.release) (b.report, b.release)

/-- The rows of a table, cell by cell. -/
def Store.contents (store : Store) : TableName → Except Failure (List (List Cell))
  | .migrations => do
    let log ← present .migrations store.migrations
    pure (log.rows.map fun (id, name) => [.integer id, .text name])
  | .opsys => do
    let table ← present .opsys store.opsys
    pure (table.rows.map fun row => [.integer row.id, .text row.name])
  | .releases => do
    let table ← present .releases store.releases
    pure (table.rows.map fun row =>
      [.integer row.id, .integer row.opsys, .text row.version, .text row.status])
  | .components => do
    let table ← present .components store.components
    pure (table.rows.map fun row => [.integer row.id, .integer row.opsys, .text row.name])
  | .problems => do
    let table ← present .problems store.problems
    pure (table.rows.map fun row => [.integer row.id, row.first.cell, row.last.cell])
  | .componentLinks => do
    let table ← present .componentLinks store.componentLinks
    let rows := table.rows.mergeSort fun a b => idsLE (Keyed.key a) (Keyed.key b)
    pure (rows.map fun row => [.integer row.problem, .integer row.component, .integer row.order])
  | .releaseLinks => do
    let table ← present .releaseLinks store.releaseLinks
    let rows := table.rows.mergeSort fun a b => idsLE (Keyed.key a) (Keyed.key b)
    pure (rows.map fun row =>
      [.integer row.problem, .integer row.release, (row.fix.map Cell.text).getD .empty])
  | .reports => do
    let table ← present .reports store.reports
    pure (table.rows.map fun row =>
      [.integer row.id, .ofOption row.problem, .integer row.component, .text row.kind,
        row.first.cell, row.last.cell, row.count.cell])
  | .history granularity => do
    let table ← present (.history granularity) (store.history.get granularity)
    pure ((table.rows.mergeSort Bucket.keyLE).map fun row =>
      [.integer row.report, .integer row.release, row.start.cell, row.count.cell])

end CrashTriage
