import CrashTriage.Ranking.Basic
import CrashTriage.Store.Lookup

/-!
# Totals of an operating system

The occurrences in the releases of an operating system, altogether and for each component. When no
release matches the operating system and version asked for, all releases count.
-/

namespace CrashTriage

/-- The occurrences counted for a component. -/
structure ComponentCount where
  component : Int
  name : String
  count : Int
deriving DecidableEq

/-- Whether one row comes before another by count, or stands beside it. -/
def ComponentCount.countLE (a b : ComponentCount) : Bool :=
  b.count < a.count || (a.count = b.count && a.component ≤ b.component)

namespace Store

/-- The releases that the totals of an operating system cover, as they are bound to a statement. -/
def scope (store : Store) (opsys version : Option String) : Except Failure ReleaseSelection := do
  let ids ← store.releaseIds opsys version
  let releases := if ids.isEmpty then .all else .only ids
  bindable releases.bound
  pure releases

/-- The total of the buckets of a granularity in the releases of an operating system. -/
def historySum (store : Store) (opsys version : Option String) (granularity : Granularity) :
    Except Failure Int := do
  let releases ← store.scope opsys version
  let buckets ← present (.history granularity) (store.history.get granularity)
  let counted := buckets.rows.filter fun bucket => releases.has bucket.release
  (Total.ofTallies (counted.map (·.count))).read 0 "COALESCE(SUM(h.count), 0)"

/-- The total of each component that has a bucket in the releases of an operating system, the
greatest first and equal ones by ascending id. -/
def componentCounts (store : Store) (opsys version : Option String) (granularity : Granularity) :
    Except Failure (List ComponentCount) := do
  let releases ← store.scope opsys version
  let buckets ← present (.history granularity) (store.history.get granularity)
  let reports ← present .reports store.reports
  let components ← present .components store.components
  let counted := (buckets.rows.filter fun bucket => releases.has bucket.release).filterMap
    fun bucket => (reports.find? bucket.report).map fun report => (report.component, bucket.count)
  let sums := components.rows.filterMap fun component =>
    match counted.filter fun (id, _) => id = component.id with
    | [] => none
    | own => some (component, Total.ofTallies (own.map (·.2)))
  if sums.any fun (_, total) => total = .overflow then throw .sumOverflow
  let rows ← sums.mapM fun (component, total) => do
    pure (⟨component.id, component.name, ← total.read 2 "cnt"⟩ : ComponentCount)
  pure (rows.mergeSort ComponentCount.countLE)

end Store

end CrashTriage
