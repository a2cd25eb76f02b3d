import CrashTriage.Store.Write

/-!
# Migrations

The schema comes in two migrations: the first creates the tables, the second the indexes that the
rankings use. Each runs once and is then logged. Indexes show nowhere in the store, but to create
one needs its table. Migrations are not transactions: what was done before a failure stays.
-/

namespace CrashTriage.Store

/-- The tables of the store, the one created last first, after some have been created in order if
they were absent. -/
def createdWith (store : Store) (tables : List TableName) : List TableName :=
  (tables.filter (!store.has ·)).reverse ++ store.created

/-- Tables that are present keep their place. -/
theorem createdWith_of_has {store : Store} {tables : List TableName}
    (present : ∀ table ∈ tables, store.has table = true) :
    store.createdWith tables = store.created := by
  simpa [createdWith] using present

/-- Creates the log of migrations if it is absent. -/
def createMigrationLog : StoreM Unit := .statement fun store =>
  .ok ((), { store with
    created := store.createdWith [.migrations]
    migrations := some (store.migrations.getD {}) })

/-- The application tables, in the order in which they are created. -/
def applicationTables : List TableName :=
  [.opsys, .releases, .components, .problems, .componentLinks, .releaseLinks, .reports,
    .history .daily, .history .weekly, .history .monthly]

/-- The store with every absent application table created, without rows. -/
def createTables (store : Store) : Store where
  created := store.createdWith applicationTables
  prepared := store.prepared
  migrations := store.migrations
  opsys := some (store.opsys.getD .empty)
  releases := some (store.releases.getD .empty)
  components := some (store.components.getD .empty)
  problems := some (store.problems.getD .empty)
  componentLinks := some (store.componentLinks.getD .empty)
  releaseLinks := some (store.releaseLinks.getD .empty)
  reports := some (store.reports.getD .empty)
  history :=
    { daily := some (store.history.daily.getD .empty)
      weekly := some (store.history.weekly.getD .empty)
      monthly := some (store.history.monthly.getD .empty) }

/-- The tables that have an index, in the order in which the indexes are created. -/
def indexedTables : List TableName :=
  [.reports, .history .daily, .history .weekly, .history .monthly, .componentLinks, .problems]

/-- Creates the indexes, each of which needs its table. -/
def createIndexes : StoreM Unit := .statement fun store =>
  match indexedTables.find? fun table => !store.has table with
  | some table => .error (.missingRelatedTable table)
  | none => .ok ((), store)

/-- Logs migrations. -/
def logMigrations (change : MigrationLog → MigrationLog) : StoreM Unit := .statement fun store => do
  let log ← present .migrations store.migrations
  pure ((), { store with migrations := some (change log) })

/-- Runs the migrations that the log does not have. -/
def migrate : StoreM Unit := do
  createMigrationLog
  let log := ((← get).migrations).getD {}
  unless log.schema do
    modify createTables
    logMigrations fun log => { log with schema := true }
  unless log.indexes do
    createIndexes
    logMigrations fun log => { log with indexes := true }

/-- The store after the migrations of a store without tables. -/
def migrated : Store := (migrate.run blank).2

end CrashTriage.Store
