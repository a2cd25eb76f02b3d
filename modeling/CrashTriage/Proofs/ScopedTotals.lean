import CrashTriage.Proofs.RankMeaning
import CrashTriage.Ranking.Components

/-!
# What the totals of an operating system show

The history sum adds up the buckets whose releases are in the scope of the operating system. The
counts by component sum, for each component, those of them whose reports are of the component, and
list the components that have such a bucket in order of count. Main statement: what the counts
compute on their tables, from which it follows when they succeed.
-/

namespace CrashTriage

/-! ### The order of components -/

namespace ComponentCount

lemma countLE_iff {a b : ComponentCount} :
    a.countLE b = true ↔ b.count < a.count ∨ (a.count = b.count ∧ a.component ≤ b.component) := by
  simp [countLE]

lemma countLE_trans (a b c : ComponentCount) (hab : a.countLE b = true)
    (hbc : b.countLE c = true) : a.countLE c = true := by
  rw [countLE_iff] at *
  omega

lemma countLE_total (a b : ComponentCount) : (a.countLE b || b.countLE a) = true := by
  rw [Bool.or_eq_true, countLE_iff, countLE_iff]
  omega

/-- Rows of different components are in strict order once they are sorted: the greatest count first,
and equal counts by ascending id. -/
lemma strict_mergeSort {rows : List ComponentCount}
    (distinct : (rows.map ComponentCount.component).Nodup) :
    (rows.mergeSort countLE).Pairwise fun a b =>
      b.count < a.count ∨ (a.count = b.count ∧ a.component < b.component) := by
  have ordered := List.pairwise_mergeSort countLE_trans countLE_total rows
  have apart := (((List.mergeSort_perm rows countLE).map ComponentCount.component).nodup_iff).2
    distinct
  apply (ordered.and (List.pairwise_map.1 apart)).imp
  intro a b both
  have order := countLE_iff.1 both.1
  have differ : a.component ≠ b.component := both.2
  omega

end ComponentCount

namespace Store

variable {store : Store} {granularity : Granularity} {opsys version : Option String}
  {releases : ReleaseSelection}

/-! ### The buckets in a scope -/

/-- The history sum is read from the total of the buckets in its scope. -/
lemma exists_scope_of_historySum {n : Int}
    (read : store.historySum opsys version granularity = .ok n) :
    ∃ releases, store.scope opsys version = .ok releases ∧
      Total.ofTallies (((store.buckets granularity).filter fun bucket =>
        releases.has bucket.release).map Bucket.count) = .exact n := by
  unfold historySum at read
  simp only [bind_eq_ok_iff, present_eq_ok_iff, Total.read_eq_ok_iff] at read
  obtain ⟨releases, scope, ledger, found, total⟩ := read
  refine ⟨releases, scope, ?_⟩
  unfold buckets
  rw [found]
  exact total

/-- Whether the occurrences of a report in a release count for a component. -/
def ofComponent (store : Store) (releases : ReleaseSelection) (component : Component)
    (report release : Int) : Bool :=
  (rowsOf store.reports).any (fun row => row.id = report && row.component = component.id)
    && releases.has release

/-- The buckets that count for a component. -/
def componentBuckets (store : Store) (granularity : Granularity) (releases : ReleaseSelection)
    (component : Component) : List Bucket :=
  (store.buckets granularity).filter fun bucket =>
    store.ofComponent releases component bucket.report bucket.release

/-- The components with a bucket in the scope. -/
def listedComponents (store : Store) (granularity : Granularity) (releases : ReleaseSelection) :
    List Component :=
  (rowsOf store.components).filter fun component =>
    !(store.componentBuckets granularity releases component).isEmpty

/-- What the counts show for a component. -/
def componentRow (store : Store) (granularity : Granularity) (releases : ReleaseSelection)
    (component : Component) : ComponentCount :=
  ⟨component.id, component.name,
    exactSum ((store.componentBuckets granularity releases component).map Bucket.count)⟩

/-- The buckets of a component are those in the scope whose report is of the component. -/
lemma componentBuckets_eq (component : Component) :
    store.componentBuckets granularity releases component
      = ((store.buckets granularity).filter fun bucket => releases.has bucket.release).filter
        fun bucket => (rowsOf store.reports).any fun row =>
          row.id = bucket.report && row.component = component.id := by
  rw [List.filter_filter]
  rfl

lemma mem_listedComponents_iff {component : Component} :
    component ∈ store.listedComponents granularity releases ↔
      component ∈ rowsOf store.components ∧
        store.componentBuckets granularity releases component ≠ [] := by
  unfold listedComponents
  rw [List.mem_filter, Bool.not_eq_true', List.isEmpty_eq_false_iff]

/-- No component has two rows. -/
lemma nodup_componentRows (store : Store) (granularity : Granularity)
    (releases : ReleaseSelection) :
    (((store.listedComponents granularity releases).map
      (store.componentRow granularity releases)).map ComponentCount.component).Nodup := by
  rw [List.map_map]
  have ascending := (pairwise_rowsOf store.components).filter fun component =>
    !(store.componentBuckets granularity releases component).isEmpty
  exact List.pairwise_map.2 (ascending.imp fun before => Int.ne_of_lt before)

/-- In the joined tables they are the buckets whose report is found with the component. -/
lemma counted_of_component {buckets : Ledger Bucket} {reports : Register Report}
    (component : Component) (foundBuckets : store.history.get granularity = some buckets)
    (foundReports : store.reports = some reports) (releases : ReleaseSelection) :
    (((buckets.rows.filter fun bucket => releases.has bucket.release).filterMap fun bucket =>
        (reports.find? bucket.report).map fun report => (report.component, bucket.count)).filter
          fun pair => pair.1 = component.id)
      = (store.componentBuckets granularity releases component).map fun bucket =>
          (component.id, bucket.count) := by
  unfold componentBuckets Store.buckets
  rw [foundBuckets, entriesOf_some, List.filterMap_filter, List.filter_filterMap]
  apply filterMap_eq_map_filter
  intro bucket _
  have reached : (rowsOf store.reports).any (fun report =>
      report.id = bucket.report && report.component = component.id)
      = (reports.find? bucket.report).any (·.component = component.id) := by
    rw [foundReports]
    exact Register.any_id_and
  unfold ofComponent
  rw [reached]
  cases there : reports.find? bucket.report with
  | none => simp
  | some report =>
    cases chosen : releases.has bucket.release with
    | false => simp
    | true =>
      by_cases own : report.component = component.id
      · simp [own]
      · simp [own]

/-! ### When the counts can be read -/

/-- What the counts by component compute on their tables: they fail when the total of some component
overflows, and otherwise they read the totals of the components with a bucket. -/
lemma componentCounts_of_scope (scope : store.scope opsys version = .ok releases)
    (hasBuckets : store.has (.history granularity) = true) (hasReports : store.has .reports = true)
    (hasComponents : store.has .components = true) :
    store.componentCounts opsys version granularity =
      if (rowsOf store.components).any (fun component => Total.ofTallies
        ((store.componentBuckets granularity releases component).map Bucket.count) = .overflow)
      then .error .sumOverflow
      else (·.mergeSort ComponentCount.countLE) <$>
        (((store.listedComponents granularity releases).map fun component =>
          (component, Total.ofTallies
            ((store.componentBuckets granularity releases component).map Bucket.count))).mapM
            fun pair => do
              pure (ComponentCount.mk pair.1.id pair.1.name (← pair.2.read 2 "cnt"))) := by
  obtain ⟨buckets, foundBuckets⟩ := Option.isSome_iff_exists.1 hasBuckets
  obtain ⟨reports, foundReports⟩ := Option.isSome_iff_exists.1 hasReports
  obtain ⟨components, foundComponents⟩ := Option.isSome_iff_exists.1 hasComponents
  have grouped (sum? : Component → Option (Component × Total))
      (h : ∀ component ∈ components.rows, sum? component =
        if !(store.componentBuckets granularity releases component).isEmpty then
          some (component, Total.ofTallies
            ((store.componentBuckets granularity releases component).map Bucket.count))
        else none) := filterMap_eq_map_filter h
  unfold listedComponents
  rw [foundComponents, rowsOf_some, ← any_overflow]
  unfold componentCounts
  rw [scope, foundBuckets, foundReports, foundComponents]
  simp only [present, bind, Except.bind]
  rw [grouped]
  · rfl
  · intro component _
    rw [counted_of_component component foundBuckets foundReports releases]
    cases store.componentBuckets granularity releases component with
    | nil => rfl
    | cons bucket rest => simp [Function.comp_def]

/-- When the total of every component is exact, the counts by component succeed and show, in order,
the components with a bucket and the exact sums of their buckets. -/
lemma componentCounts_eq_of_exact (scope : store.scope opsys version = .ok releases)
    (hasBuckets : store.has (.history granularity) = true) (hasReports : store.has .reports = true)
    (hasComponents : store.has .components = true)
    (exact : ∀ component ∈ rowsOf store.components, Total.ofTallies
      ((store.componentBuckets granularity releases component).map Bucket.count) = .exact
        (exactSum ((store.componentBuckets granularity releases component).map Bucket.count))) :
    store.componentCounts opsys version granularity =
      .ok (((store.listedComponents granularity releases).map
        (store.componentRow granularity releases)).mergeSort ComponentCount.countLE) := by
  have fits : ¬ (rowsOf store.components).any (fun component => Total.ofTallies
      ((store.componentBuckets granularity releases component).map Bucket.count) = .overflow) := by
    rw [Bool.not_eq_true, List.any_eq_false]
    intro component member
    rw [exact component member]
    exact of_decide_eq_false rfl
  rw [componentCounts_of_scope scope hasBuckets hasReports hasComponents, if_neg fits,
    read_totals_of_exact (fun (component : Component) n =>
      ComponentCount.mk component.id component.name n) 2 "cnt"
      fun component listed => exact component (mem_listedComponents_iff.1 listed).1]
  rfl

end Store

end CrashTriage
