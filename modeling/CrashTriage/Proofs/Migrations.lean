import CrashTriage.Proofs.Statements

/-!
# Migrations repair and never destroy

Migrations are no transaction, so what they do has to be right statement by statement. The first one
creates the tables that are missing and leaves the others alone, the second one changes no table. A
store therefore has one of four things done to it, by what its log lists and which tables it has:
nothing when both migrations are logged, all missing tables when the first one is not, only the log
when the second one is not, and nothing again when a table is missing that the second one needs.
-/

namespace CrashTriage.Store

open StoreM

variable {store after : Store}

/-! ### Tables before and after -/

/-- A table that is present before is the same afterwards. -/
def IsKept {τ : Type} (before after : Option τ) : Prop :=
  ∀ table, before = some table → after = some table

lemma isKept_getD {τ : Type} (before : Option τ) (empty : τ) :
    IsKept before (some (before.getD empty)) := by
  rintro table rfl
  rfl

/-- The application tables of a store are in another store as they are. -/
structure TablesKept (store after : Store) : Prop where
  opsys : IsKept store.opsys after.opsys
  releases : IsKept store.releases after.releases
  components : IsKept store.components after.components
  problems : IsKept store.problems after.problems
  componentLinks : IsKept store.componentLinks after.componentLinks
  releaseLinks : IsKept store.releaseLinks after.releaseLinks
  reports : IsKept store.reports after.reports
  history : ∀ granularity, IsKept (store.history.get granularity) (after.history.get granularity)

/-- All application tables are in another store, as they are or, when they are missing, without
rows. -/
structure TablesCompleted (store after : Store) : Prop where
  opsys : after.opsys = some (store.opsys.getD .empty)
  releases : after.releases = some (store.releases.getD .empty)
  components : after.components = some (store.components.getD .empty)
  problems : after.problems = some (store.problems.getD .empty)
  componentLinks : after.componentLinks = some (store.componentLinks.getD .empty)
  releaseLinks : after.releaseLinks = some (store.releaseLinks.getD .empty)
  reports : after.reports = some (store.reports.getD .empty)
  history : ∀ granularity,
    after.history.get granularity = some ((store.history.get granularity).getD .empty)

lemma TablesKept.refl (store : Store) : TablesKept store store where
  opsys _ := id
  releases _ := id
  components _ := id
  problems _ := id
  componentLinks _ := id
  releaseLinks _ := id
  reports _ := id
  history _ _ := id

lemma TablesCompleted.kept (completed : TablesCompleted store after) : TablesKept store after where
  opsys := completed.opsys ▸ isKept_getD _ _
  releases := completed.releases ▸ isKept_getD _ _
  components := completed.components ▸ isKept_getD _ _
  problems := completed.problems ▸ isKept_getD _ _
  componentLinks := completed.componentLinks ▸ isKept_getD _ _
  releaseLinks := completed.releaseLinks ▸ isKept_getD _ _
  reports := completed.reports ▸ isKept_getD _ _
  history granularity := completed.history granularity ▸ isKept_getD _ _

lemma tablesCompleted_createTables (store : Store) : TablesCompleted store store.createTables where
  opsys := rfl
  releases := rfl
  components := rfl
  problems := rfl
  componentLinks := rfl
  releaseLinks := rfl
  reports := rfl
  history granularity := by cases granularity <;> rfl

/-! ### The statements of the migrations -/

/-- The store with a log of migrations, which is empty if there was none. -/
def withLog (store : Store) : Store :=
  { store with
    created := store.createdWith [.migrations]
    migrations := some (store.migrations.getD {}) }

/-- A store that has a log keeps it. -/
lemma withLog_of_some {log : MigrationLog} (logged : store.migrations = some log) :
    store.withLog = store := by
  have place : store.createdWith [.migrations] = store.created := by
    apply createdWith_of_has
    simp [has, logged]
  unfold withLog
  rw [place, logged, Option.getD_some, ← logged]

lemma createMigrationLog_apply (store : Store) :
    createMigrationLog store = (.ok (), store.withLog) := rfl

lemma get_apply (store : Store) : (get : StoreM Store) store = (.ok store, store) := rfl

lemma logMigrations_apply {log : MigrationLog} (logged : store.migrations = some log)
    (change : MigrationLog → MigrationLog) :
    logMigrations change store = (.ok (), { store with migrations := some (change log) }) := by
  have yields : (logMigrations change).Yields store ()
      { store with migrations := some (change log) } := by
    refine statement_yields_iff.2 ?_
    simp only [logged, present, bind, Except.bind, pure, Except.pure]
  exact Prod.ext yields.1 yields.2

lemma createIndexes_apply (store : Store) :
    createIndexes store =
      match indexedTables.find? fun table => !store.has table with
      | some table => (.error (.missingRelatedTable table), store)
      | none => (.ok (), store) := by
  unfold createIndexes statement
  dsimp only
  cases indexedTables.find? fun table => !store.has table <;> rfl

/-- Applies the first migration. -/
def applySchema : StoreM Unit := do
  modify createTables
  logMigrations fun log => { log with schema := true }

/-- Applies the second migration. -/
def applyIndexes : StoreM Unit := do
  createIndexes
  logMigrations fun log => { log with indexes := true }

lemma applySchema_apply {log : MigrationLog} (logged : store.migrations = some log) :
    applySchema store
      = (.ok (), { store.createTables with migrations := some { log with schema := true } }) := by
  have created : (modify createTables : StoreM Unit) store = (.ok (), store.createTables) := rfl
  have kept : store.createTables.migrations = some log := logged
  unfold applySchema
  rw [bind_apply, created]
  exact logMigrations_apply kept _

lemma applyIndexes_apply {log : MigrationLog} (logged : store.migrations = some log) :
    applyIndexes store =
      match indexedTables.find? fun table => !store.has table with
      | some table => (.error (.missingRelatedTable table), store)
      | none => (.ok (), { store with migrations := some { log with indexes := true } }) := by
  unfold applyIndexes
  rw [bind_apply, createIndexes_apply]
  cases indexedTables.find? fun table => !store.has table with
  | some table => rfl
  | none => exact logMigrations_apply logged _

/-- Each migration is applied unless the log has it. -/
lemma migrate_apply {log : MigrationLog} (logged : store.withLog.migrations = some log) :
    migrate store =
      ((if log.schema then pure () else applySchema) >>= fun _ =>
        if log.indexes then pure () else applyIndexes) store.withLog := by
  have read : store.withLog.migrations.getD {} = log := by
    rw [logged]
    rfl
  unfold migrate
  rw [bind_apply, createMigrationLog_apply]
  dsimp only
  rw [bind_apply, get_apply]
  dsimp only
  rw [read]
  rcases log with ⟨schema, indexes⟩
  cases schema <;> cases indexes <;> rfl

/-! ### What migrations do to a store -/

/-- The log that lists both migrations. -/
def fullLog : MigrationLog := ⟨true, true⟩

example : fullLog.rows = [(1, "001_initial"), (2, "002_ranking_indexes")] := rfl

/-- What migrations do to a store. -/
inductive MigrationEffect (store : Store) : Except Failure Unit × Store → Prop
  /-- Both migrations are logged. -/
  | nothing (logged : store.migrations = some fullLog) : MigrationEffect store (.ok (), store)
  /-- The first migration is not logged. -/
  | completed (unlogged : (store.migrations.getD {}).schema = false) :
      MigrationEffect store
        (.ok (), { store.withLog.createTables with migrations := some fullLog })
  /-- Only the first migration is logged, and the second one finds its tables. -/
  | indexed (logged : store.migrations = some { schema := true })
      (complete : ∀ table ∈ indexedTables, store.has table = true) :
      MigrationEffect store (.ok (), { store with migrations := some fullLog })
  /-- Only the first migration is logged, and the second one misses a table. -/
  | refused {table : TableName} (logged : store.migrations = some { schema := true })
      (missing : indexedTables.find? (fun table => !store.has table) = some table) :
      MigrationEffect store (.error (.missingRelatedTable table), store)

/-- When the log lacks the first migration, the missing tables are created, after which the second
migration finds all that it needs. -/
lemma migrate_of_unlogged {indexes : Bool}
    (unlogged : store.migrations.getD {} = ⟨false, indexes⟩) :
    migrate store = (.ok (), { store.withLog.createTables with migrations := some fullLog }) := by
  have logged : store.withLog.migrations = some ⟨false, indexes⟩ := congrArg some unlogged
  rw [migrate_apply logged, if_neg Bool.false_ne_true, bind_apply, applySchema_apply logged]
  cases indexes with
  | true => rfl
  | false =>
    dsimp only
    rw [if_neg Bool.false_ne_true, applyIndexes_apply rfl]
    rfl

/-- When the log has the first migration, only the second one is left. -/
lemma migrate_of_logged {indexes : Bool} (logged : store.migrations = some ⟨true, indexes⟩) :
    migrate store = (if indexes then pure () else applyIndexes : StoreM Unit) store := by
  have same := withLog_of_some logged
  rw [migrate_apply (by rw [same]; exact logged), same]
  rfl

/-- To run the migrations always has one of these effects. -/
theorem migrationEffect (store : Store) : MigrationEffect store (migrate store) := by
  rcases found : store.migrations.getD {} with ⟨schema, indexes⟩
  cases schema with
  | false =>
    rw [migrate_of_unlogged found]
    exact .completed (by rw [found])
  | true =>
    have logged : store.migrations = some ⟨true, indexes⟩ := by
      cases log : store.migrations with
      | none =>
        rw [log] at found
        cases found
      | some log' =>
        rw [log] at found
        exact congrArg some found
    rw [migrate_of_logged logged]
    cases indexes with
    | true => exact .nothing logged
    | false =>
      rw [if_neg Bool.false_ne_true, applyIndexes_apply logged]
      cases missing : indexedTables.find? fun table => !store.has table with
      | none => exact .indexed logged (by simpa using missing)
      | some table => exact .refused logged missing

namespace MigrationEffect

variable {result : Except Failure Unit × Store}

/-- Application tables are kept, whether the migrations succeed or fail. -/
lemma kept (effect : MigrationEffect store result) : TablesKept store result.2 := by
  cases effect with
  | nothing _ => exact .refl store
  | completed _ =>
    have tables := (tablesCompleted_createTables store.withLog).kept
    exact { tables with }
  | indexed _ _ => exact { TablesKept.refl store with }
  | refused _ _ => exact .refl store

/-- After migrations that succeed both are logged. -/
lemma logged_of_ok (effect : MigrationEffect store result) (succeeded : result.1 = .ok ()) :
    result.2.migrations = some fullLog := by
  cases effect with
  | nothing logged => exact logged
  | completed _ => rfl
  | indexed _ _ => rfl
  | refused _ _ => cases succeeded

/-- Migrations fail when the second one is to be applied without the first one and misses a table.
-/
lemma eq_error_iff (effect : MigrationEffect store result) {failure : Failure} :
    result.1 = .error failure ↔ store.migrations = some { schema := true } ∧
      ∃ table, indexedTables.find? (fun table => !store.has table) = some table ∧
        failure = .missingRelatedTable table := by
  cases effect with
  | nothing logged => simp [logged, fullLog]
  | completed unlogged =>
    refine ⟨nofun, fun both => ?_⟩
    rw [both.1] at unlogged
    cases unlogged
  | indexed _ complete =>
    refine ⟨nofun, ?_⟩
    rintro ⟨-, table, missing, -⟩
    have absent := List.find?_some missing
    rw [complete table (List.mem_of_find?_eq_some missing)] at absent
    cases absent
  | @refused table logged missing => simp [logged, missing, eq_comm]

end MigrationEffect

/-! ### Migrations of stores that have been reached -/

/-- The step of the migrations replies when they succeed. -/
lemma step_migrate (store : Store) :
    store.step .migrate = ((fun _ => Reply.done) <$> (migrate store).1, (migrate store).2) := by
  change ((fun _ => Reply.done) <$> migrate) store = _
  rw [map_apply]
  rcases migrate store with ⟨failure | u, after⟩ <;> rfl

/-- A store that has both migrations logged is left alone. -/
lemma step_migrate_of_full (logged : store.migrations = some fullLog) :
    store.step .migrate = (.ok .done, store) := by
  rw [step_migrate, migrate_of_logged logged]
  rfl

/-- Migrations repair a store and never destroy anything in it, whatever commands have led there
from the store without tables, dropped tables and earlier migrations among them. Whether they
succeed or fail, every application table that is present stays as it is. When they succeed, to run
them again changes nothing. Without a log they succeed, and then every application table is there,
the missing ones without rows, and both migrations are logged. When the log lists both, nothing
changes, even if tables are missing. And they fail only when the log lists the first migration alone
and a table is missing that the second one needs, which the failure names. -/
theorem migrations_repair_and_keep (commands : List Command) :
    ∃ outcome after, (blank.run commands).step .migrate = (outcome, after) ∧
      TablesKept (blank.run commands) after ∧
      (∀ reply, outcome = .ok reply → after.step .migrate = (.ok reply, after)) ∧
      ((blank.run commands).has .migrations = false →
        outcome = .ok .done ∧ TablesCompleted (blank.run commands) after ∧
          after.migrations = some fullLog) ∧
      ((blank.run commands).migrations = some fullLog →
        outcome = .ok .done ∧ after = blank.run commands) ∧
      ∀ failure, outcome = .error failure ↔
        (blank.run commands).migrations = some { schema := true } ∧
          ∃ table,
            indexedTables.find? (fun table => !(blank.run commands).has table) = some table ∧
              failure = .missingRelatedTable table := by
  have effect := migrationEffect (blank.run commands)
  refine ⟨_, _, step_migrate _, effect.kept, ?_, ?_, ?_, ?_⟩
  · intro reply succeeded
    obtain ⟨u, done, rfl⟩ := map_eq_ok_iff.1 succeeded
    exact step_migrate_of_full (effect.logged_of_ok done)
  · intro absent
    have unlogged : (blank.run commands).migrations.getD {} = ⟨false, false⟩ := by
      rw [Option.not_isSome_iff_eq_none.1 (Bool.eq_false_iff.1 absent)]
      rfl
    rw [migrate_of_unlogged unlogged]
    exact ⟨rfl, { tablesCompleted_createTables (blank.run commands).withLog with }, rfl⟩
  · intro logged
    rw [← Prod.mk.injEq, ← step_migrate]
    exact step_migrate_of_full logged
  · intro failure
    rw [← effect.eq_error_iff]
    cases (migrate (blank.run commands)).1 <;> simp [Functor.map, Except.map]

/-- Commands after which a table with rows and the log of migrations have been dropped. -/
def droppedTables : List Command :=
  [.migrate, .insertOpSys "linux", .insertComponent 1 "kernel", .drop .components,
    .drop .migrations]

/-- Commands that leave a store without a table that the second migration needs, and a log without
that migration. -/
def brokenLog : List Command :=
  [.migrate, .insertOpSys "linux", .drop .reports, .delete .migrations 2]

/-- The dropped table is back without rows, the operating system is still there, and a second run of
the migrations changes nothing. With a full log a dropped table stays away, and without the second
migration in the log its absence is a failure. -/
theorem migrations_of_droppedTables :
    (∃ after, (blank.run droppedTables).step .migrate = (.ok .done, after) ∧
        rowsOf after.opsys = [⟨1, "linux"⟩] ∧ after.components = some .empty ∧
        after.step .migrate = (.ok .done, after)) ∧
      (blank.run [.migrate, .drop .reports]).step .migrate
        = (.ok .done, blank.run [.migrate, .drop .reports]) ∧
      ((blank.run brokenLog).step .migrate).1 = .error (.missingRelatedTable .reports) := by
  refine ⟨?_, ?_, ?_⟩
  · obtain ⟨outcome, after, step, -, again, repaired, -, -⟩ :=
      migrations_repair_and_keep droppedTables
    obtain ⟨rfl, completed, -⟩ := repaired rfl
    exact ⟨after, step, congrArg rowsOf completed.opsys, completed.components, again .done rfl⟩
  · obtain ⟨outcome, after, step, -, -, -, full, -⟩ :=
      migrations_repair_and_keep [.migrate, .drop .reports]
    obtain ⟨rfl, rfl⟩ := full rfl
    exact step
  · obtain ⟨outcome, after, step, -, -, -, -, failed⟩ := migrations_repair_and_keep brokenLog
    rw [step]
    exact (failed _).2 ⟨rfl, .reports, rfl, rfl⟩

end CrashTriage.Store
