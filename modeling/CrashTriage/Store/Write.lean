import CrashTriage.Store.Schema

/-!
# Writing to the store

Statements add rows and links and record occurrences. A statement that fails changes nothing. To
record occurrences takes five statements, which form one transaction: if one of them fails, those
before it are undone. The three that count in buckets are prepared when they are first needed, and
kept from then on, whatever becomes of the transaction.
-/

namespace CrashTriage

/-- A computation that reads and changes the store and may fail; what it changed before it fails
stays changed. -/
abbrev StoreM := ExceptT Failure (StateM Store)

namespace StoreM

/-- A statement: it gives a result and the changed store, or fails and leaves the store alone. -/
def statement {α : Type} (body : Store → Except Failure (α × Store)) : StoreM α := fun store =>
  match body store with
  | .ok (result, changed) => (.ok result, changed)
  | .error failure => (.error failure, store)

/-- A transaction: if the computation fails, the tables are put back as they were. -/
def transaction {α : Type} (body : StoreM α) : StoreM α := fun store =>
  match body store with
  | (.ok result, changed) => (.ok result, changed)
  | (.error failure, changed) => (.error failure, { store with prepared := changed.prepared })

end StoreM

/-! ### Changes of a row -/

/-- A link with another fix. -/
def ReleaseLink.withFix (fix : Option String) (link : ReleaseLink) : ReleaseLink :=
  { link with fix := fix }

/-- A bucket after more occurrences. -/
def Bucket.grow (count : Int) (bucket : Bucket) : Bucket :=
  { bucket with count := bucket.count.add count }

/-- A report after occurrences on a date: more of them, and a range that holds the date. -/
def Report.widen (date : Date) (count : Int) (report : Report) : Report :=
  { report with
    count := report.count.add count
    first := report.first.writtenMin date
    last := report.last.writtenMax date }

/-- A problem after an occurrence on a date. -/
def Problem.widen (date : Date) (problem : Problem) : Problem :=
  { problem with
    first := problem.first.writtenMin date
    last := problem.last.writtenMax date }

namespace Store

/-! ### Operating systems, releases and components -/

/-- Enters an operating system, whose name must be new, and gives its id. -/
def insertOpSys (name : String) : StoreM Int := .statement fun store => do
  let table ← present .opsys store.opsys
  if table.rows.any (·.name = name) then throw (.duplicate .opsys ["name"])
  let id := table.nextId
  pure (id, { store with opsys := some (table.insert ⟨id, name⟩ rfl) })

/-- Whether a row with the given id is present in a register. -/
def refers {ρ : Type} [Identified ρ] (register : Option (Register ρ)) (id : Int) : Bool :=
  register.any (·.contains id)

/-- Enters a release of an operating system, whose version must be new there, and gives its id. -/
def insertRelease (opsys : Int) (version : String) : StoreM Int := .statement fun store => do
  let table ← present .releases store.releases
  store.requireParents .releases
  if table.rows.any fun row => row.opsys = opsys && row.version = version then
    throw (.duplicate .releases ["opsys_id", "version"])
  if !refers store.opsys opsys then throw .foreignKey
  let id := table.nextId
  pure (id, { store with releases := some (table.insert ⟨id, opsys, version, "ACTIVE"⟩ rfl) })

/-- Enters a component of an operating system, whose name must be new there, and gives its id. -/
def insertComponent (opsys : Int) (name : String) : StoreM Int := .statement fun store => do
  let table ← present .components store.components
  store.requireParents .components
  if table.rows.any fun row => row.opsys = opsys && row.name = name then
    throw (.duplicate .components ["opsys_id", "name"])
  if !refers store.opsys opsys then throw .foreignKey
  let id := table.nextId
  pure (id, { store with components := some (table.insert ⟨id, opsys, name⟩ rfl) })

/-! ### Problems, reports and links -/

/-- Enters a problem, whose first occurrence may not be written after its last, and gives its
id. -/
def insertProblem (first last : Date) : StoreM Int := .statement fun store => do
  let table ← present .problems store.problems
  if last.isWrittenBefore first then throw (.check .occurrencesOrdered)
  let id := table.nextId
  pure (id, { store with problems := some (table.insert ⟨id, first, last⟩ rfl) })

/-- Enters a report without occurrences, of a problem or of none, and gives its id. -/
def insertReport (problem : Option Int) (component : Int) (first : Date) : StoreM Int :=
  .statement fun store => do
    let table ← present .reports store.reports
    store.requireParents .reports
    if !problem.all (refers store.problems) || !refers store.components component then
      throw .foreignKey
    let id := table.nextId
    let row : Report := ⟨id, problem, component, "core", first, first, .exact 0⟩
    pure (id, { store with reports := some (table.insert row rfl) })

/-- Links a component to a problem; a link that is already there stays as it is. -/
def linkComponent (problem component order : Int) : StoreM Unit := .statement fun store => do
  let table ← present .componentLinks store.componentLinks
  store.requireParents .componentLinks
  let row : ComponentLink := ⟨problem, component, order⟩
  if h : table.contains (Keyed.key row) = false then
    if !refers store.problems problem || !refers store.components component then
      throw .foreignKey
    pure ((), { store with componentLinks := some (table.insert row h) })
  else pure ((), store)

/-- Links a release to a problem, or replaces the fix of the link that is already there. -/
def linkRelease (problem release : Int) (fix : Option String) : StoreM Unit :=
  .statement fun store => do
    let table ← present .releaseLinks store.releaseLinks
    store.requireParents .releaseLinks
    let row : ReleaseLink := ⟨problem, release, fix⟩
    if h : table.contains (Keyed.key row) = false then
      if !refers store.problems problem || !refers store.releases release then
        throw .foreignKey
      pure ((), { store with releaseLinks := some (table.insert row h) })
    else
      let changed := table.update (problem, release) (ReleaseLink.withFix fix) fun _ => rfl
      pure ((), { store with releaseLinks := some changed })

/-! ### Occurrences -/

/-- Prepares the statement that counts occurrences in the buckets of a granularity, which needs its
tables. Once prepared it stays so. -/
def prepareBucket (granularity : Granularity) : StoreM Unit := .statement fun store => do
  if granularity ∈ store.prepared then pure ((), store)
  else
    let _ ← present (.history granularity) (store.history.get granularity)
    store.requireParents (.history granularity)
    pure ((), { store with prepared := granularity :: store.prepared })

/-- Counts occurrences in the bucket that holds a date, by a prepared statement: where the bucket
starts is found out before the tables are looked for. -/
def countInBucket (granularity : Granularity) (report release : Int) (date : Date) (count : Int) :
    StoreM Unit := .statement fun store => do
  let start ← inRange (granularity.bucketStart? date)
  let table ← present (.history granularity) (store.history.get granularity)
  store.requireParents (.history granularity)
  let row : Bucket := ⟨report, release, start, .exact count⟩
  if !row.count.isPositive then throw (.check .countPositive)
  if h : table.contains (Keyed.key row) = false then
    if !refers store.reports report || !refers store.releases release then throw .foreignKey
    let changed := store.history.set granularity (some (table.insert row h))
    pure ((), { store with history := changed })
  else
    let grown := table.update (Keyed.key row) (Bucket.grow count) fun _ => rfl
    if (grown.find? (Keyed.key row)).any (!·.count.isPositive) then throw (.check .countPositive)
    pure ((), { store with history := store.history.set granularity (some grown) })

/-- Counts occurrences in the bucket that holds a date. -/
def enterBucket (granularity : Granularity) (report release : Int) (date : Date) (count : Int) :
    StoreM Unit := do
  prepareBucket granularity
  countInBucket granularity report release date count

/-- Counts occurrences in their report and widens its range to hold their date. -/
def widenReport (report : Int) (date : Date) (count : Int) : StoreM Unit :=
  .statement fun store => do
    let table ← present .reports store.reports
    let changed := table.update report (Report.widen date count) fun _ => rfl
    pure ((), { store with reports := some changed })

/-- Widens the range of a report's problem, if it has one, to hold a date. -/
def widenProblem (report : Int) (date : Date) : StoreM Unit := .statement fun store => do
  let table ← present .problems store.problems
  let reports ← present .reports store.reports
  match (reports.find? report).bind (·.problem) with
  | none => pure ((), store)
  | some problem =>
    let changed := table.update problem (Problem.widen date) fun _ => rfl
    if (changed.find? problem).any fun row => row.last.isWrittenBefore row.first then
      throw (.check .occurrencesOrdered)
    pure ((), { store with problems := some changed })

/-- Records occurrences of a report in a release on a date, at every granularity, and widens the
ranges of the report and of its problem. A count that is not positive records nothing. -/
def record (report release : Int) (date : Date) (count : Int) : StoreM Unit :=
  if count ≤ 0 then pure ()
  else .transaction do
    enterBucket .daily report release date count
    enterBucket .weekly report release date count
    enterBucket .monthly report release date count
    widenReport report date count
    widenProblem report date

end Store

end CrashTriage
