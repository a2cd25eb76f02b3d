import CrashTriage.Proofs.AllReleases
import CrashTriage.Proofs.ScopedTotals

/-!
# Conservation of totals

The references of a sound store lead every bucket to one report, and from there to one component,
and to one problem or none. So the buckets of an operating system fall into groups by component, and
all buckets into groups by problem and those without a problem. As counts are positive, the total of
a group is at most the total of all its buckets: it can be read when that one can, and the totals of
the groups add up to it.
-/

namespace CrashTriage

/-! ### Groups of buckets -/

/-- When a total of positive tallies can be read, so can the total of any part of them. -/
lemma Total.ofTallies_filter {buckets : List Bucket} {n : Int}
    (positive : ∀ bucket ∈ buckets, bucket.count.isPositive = true)
    (total : Total.ofTallies (buckets.map Bucket.count) = .exact n) (test : Bucket → Bool) :
    Total.ofTallies ((buckets.filter test).map Bucket.count)
      = .exact (exactSum ((buckets.filter test).map Bucket.count)) := by
  obtain ⟨exact, sum, fits⟩ := Total.ofTallies_eq_exact_iff.1 total
  have above (bucket : Bucket) (member : bucket ∈ buckets) :
      0 < (Tally.exactPart ∘ Bucket.count) bucket :=
    Tally.exactPart_pos (positive bucket member) (exact _ (List.mem_map_of_mem member))
  have low : 0 ≤ exactSum ((buckets.filter test).map Bucket.count) := by
    rw [exactSum_eq_sum, List.map_map]
    refine Tally.sum_nonneg_of_pos fun n member => ?_
    obtain ⟨bucket, inside, rfl⟩ := List.mem_map.1 member
    exact above bucket (List.mem_filter.1 inside).1
  have high : exactSum ((buckets.filter test).map Bucket.count)
      ≤ exactSum (buckets.map Bucket.count) := by
    rw [exactSum_eq_sum, exactSum_eq_sum, List.map_map, List.map_map]
    exact sum_filter_le test above
  rw [Total.ofTallies_eq_exact_iff]
  refine ⟨fun tally among => ?_, rfl, ?_⟩
  · obtain ⟨bucket, inside, rfl⟩ := List.mem_map.1 among
    exact exact _ (List.mem_map_of_mem (List.mem_filter.1 inside).1)
  · have most := fits.2
    unfold Numeral.FitsInt64 Numeral.minInt64
    omega

/-- When every bucket falls into exactly one group, the sums of the groups that have a bucket add up
to the sum of all buckets. -/
lemma exactSum_regroup {γ : Type} {groups : List γ} {buckets : List Bucket}
    (falls : γ → Bucket → Bool)
    (apart : groups.Pairwise fun a b =>
      ∀ bucket ∈ buckets, falls a bucket = true → falls b bucket = false)
    (cover : ∀ bucket ∈ buckets, ∃ group ∈ groups, falls group bucket = true) :
    ((groups.filter fun group => !(buckets.filter (falls group)).isEmpty).map fun group =>
        exactSum ((buckets.filter (falls group)).map Bucket.count)).sum
      = exactSum (buckets.map Bucket.count) := by
  have sums (group : γ) : exactSum ((buckets.filter (falls group)).map Bucket.count)
      = ((buckets.filter (falls group)).map (Tally.exactPart ∘ Bucket.count)).sum := by
    rw [exactSum_eq_sum, List.map_map]
  simp only [sums]
  rw [exactSum_eq_sum, List.map_map]
  refine sum_regroup falls (apart.filter _) fun bucket member => ?_
  obtain ⟨group, among, here⟩ := cover bucket member
  refine ⟨group, List.mem_filter.2 ⟨among, ?_⟩, here⟩
  rw [Bool.not_eq_true', List.isEmpty_eq_false_iff]
  exact List.ne_nil_of_mem (List.mem_filter.2 ⟨member, here⟩)

namespace Store

variable {store : Store} {granularity : Granularity} {releases : ReleaseSelection}

/-- Whether a bucket belongs to a report that passes a test. -/
def ofReport (store : Store) (test : Report → Bool) (bucket : Bucket) : Bool :=
  (rowsOf store.reports).any fun report => report.id = bucket.report && test report

/-- The buckets whose report has no problem. -/
def looseBuckets (store : Store) (granularity : Granularity) : List Bucket :=
  (store.buckets granularity).filter (store.ofReport fun report => report.problem.isNone)

/-- A bucket of a sound store belongs to one report. -/
lemma Sound.exists_report (sound : store.Sound) {bucket : Bucket}
    (member : bucket ∈ store.buckets granularity) :
    ∃ report ∈ rowsOf store.reports, ∀ test, store.ofReport test bucket = test report := by
  obtain ⟨reports, found⟩ := Option.isSome_iff_exists.1 (sound.tables .reports)
  obtain ⟨report, present, same⟩ := refers_iff.1 (sound.bucket granularity bucket member).1
  refine ⟨report, present, fun test => ?_⟩
  rw [found, rowsOf_some] at present
  unfold ofReport
  have reached : ((rowsOf store.reports).any fun row => row.id = bucket.report && test row)
      = (reports.find? bucket.report).any test := by
    rw [found]
    exact Register.any_id_and
  rw [reached, Register.find?_eq_some_iff.2 ⟨present, same⟩]
  rfl

/-- When reports fall into at most one group each, so do buckets, by their reports. -/
lemma Sound.apart_of_reports (sound : store.Sound) {γ : Type} {groups : List γ}
    {buckets : List Bucket} (among : ∀ bucket ∈ buckets, bucket ∈ store.buckets granularity)
    {falls : γ → Report → Bool}
    (apart : groups.Pairwise fun a b => ∀ report, falls a report = true → falls b report = false) :
    groups.Pairwise fun a b => ∀ bucket ∈ buckets,
      store.ofReport (falls a) bucket = true → store.ofReport (falls b) bucket = false := by
  refine apart.imp fun different bucket member here => ?_
  obtain ⟨report, -, test⟩ := sound.exists_report (among bucket member)
  rw [test] at here ⊢
  exact different report here

/-! ### Groups by component -/

/-- The buckets of the components add up to all buckets in the scope. -/
lemma Sound.sum_componentBuckets (sound : store.Sound) (granularity : Granularity)
    (releases : ReleaseSelection) :
    ((store.listedComponents granularity releases).map fun component =>
        exactSum ((store.componentBuckets granularity releases component).map Bucket.count)).sum
      = exactSum (((store.buckets granularity).filter fun bucket =>
          releases.has bucket.release).map Bucket.count) := by
  unfold listedComponents
  simp only [componentBuckets_eq]
  apply exactSum_regroup fun component : Component =>
    store.ofReport fun report => report.component = component.id
  · apply sound.apart_of_reports fun bucket inside => (List.mem_filter.1 inside).1
    refine (pairwise_rowsOf store.components).imp fun before report own => ?_
    rw [of_decide_eq_true own]
    exact decide_eq_false (Int.ne_of_lt before)
  · intro bucket inside
    obtain ⟨report, present, test⟩ := sound.exists_report (List.mem_filter.1 inside).1
    obtain ⟨component, among, same⟩ := refers_iff.1 (sound.report report present).2
    exact ⟨component, among, (test _).trans (decide_eq_true same.symm)⟩

/-- When a history sum can be read, so can the counts by component in the same scope. They show
different components in strict order and positive counts, which add up to the history sum. -/
lemma Sound.componentCounts_of_historySum (sound : store.Sound) {opsys version : Option String}
    {n : Int} (read : store.historySum opsys version granularity = .ok n) :
    ∃ rows, store.componentCounts opsys version granularity = .ok rows ∧
      (rows.map ComponentCount.component).Nodup ∧
      (rows.Pairwise fun a b =>
        b.count < a.count ∨ (a.count = b.count ∧ a.component < b.component)) ∧
      (∀ row ∈ rows, 0 < row.count) ∧ (rows.map ComponentCount.count).sum = n := by
  obtain ⟨releases, scope, total⟩ := exists_scope_of_historySum read
  have positive (bucket : Bucket)
      (inside : bucket ∈ (store.buckets granularity).filter fun bucket =>
        releases.has bucket.release) : bucket.count.isPositive = true :=
    sound.positive granularity bucket (List.mem_filter.1 inside).1
  have exact (component : Component) : Total.ofTallies
      ((store.componentBuckets granularity releases component).map Bucket.count) = .exact
        (exactSum ((store.componentBuckets granularity releases component).map Bucket.count)) := by
    rw [componentBuckets_eq]
    exact Total.ofTallies_filter positive total _
  have distinct := store.nodup_componentRows granularity releases
  refine ⟨_, componentCounts_eq_of_exact scope (sound.tables _) (sound.tables _) (sound.tables _)
    fun component _ => exact component, ?_, ComponentCount.strict_mergeSort distinct, ?_, ?_⟩
  · exact ((List.mergeSort_perm _ _).map _).nodup_iff.2 distinct
  · intro row member
    rw [List.mem_mergeSort, List.mem_map] at member
    obtain ⟨component, listed, rfl⟩ := member
    have tallies := (Total.ofTallies_eq_exact_iff.1 (exact component)).1
    exact sound.exactSum_pos (fun bucket inside => (List.mem_filter.1 inside).1)
      (fun bucket inside => tallies _ (List.mem_map_of_mem inside))
      (mem_listedComponents_iff.1 listed).2
  · rw [((List.mergeSort_perm _ _).map _).sum_eq, List.map_map,
      (Total.ofTallies_eq_exact_iff.1 total).2.1, ← sound.sum_componentBuckets]
    rfl

/-! ### Groups by problem -/

/-- Without conditions a query counts for a problem the buckets of its reports. -/
lemma countedFor_none (problem : Problem) :
    store.countedFor ⟨granularity, .all, none, []⟩ problem
      = (store.buckets granularity).filter
        (store.ofReport fun report => report.problem = some problem.id) := by
  apply List.filter_congr
  intro bucket _
  exact Bool.and_true _

/-- The buckets of the problems add up to all buckets but those without a problem. -/
lemma Sound.sum_countedFor (sound : store.Sound) (granularity : Granularity) :
    (((rowsOf store.problems).filter
        (store.lists ⟨granularity, .all, none, []⟩)).map fun problem =>
          exactSum ((store.countedFor ⟨granularity, .all, none, []⟩ problem).map Bucket.count)).sum
      = exactSum ((store.buckets granularity).map Bucket.count)
        - exactSum ((store.looseBuckets granularity).map Bucket.count) := by
  -- the buckets that have a problem
  let owned := (store.buckets granularity).filter fun bucket =>
    !store.ofReport (fun report => report.problem.isNone) bucket
  have among (bucket : Bucket) (inside : bucket ∈ owned) : bucket ∈ store.buckets granularity :=
    (List.mem_filter.1 inside).1
  have split : exactSum ((store.looseBuckets granularity).map Bucket.count)
      + exactSum (owned.map Bucket.count)
        = exactSum ((store.buckets granularity).map Bucket.count) := exactSum_filter_add _ _
  have counted (problem : Problem) : store.countedFor ⟨granularity, .all, none, []⟩ problem
      = owned.filter (store.ofReport fun report => report.problem = some problem.id) := by
    rw [countedFor_none, List.filter_filter]
    refine List.filter_congr fun bucket member => ?_
    obtain ⟨report, -, test⟩ := sound.exists_report member
    rw [test, test]
    cases report.problem with
    | none => rfl
    | some id => exact (Bool.and_true _).symm
  have listed : store.lists ⟨granularity, .all, none, []⟩ = fun problem =>
      !(owned.filter (store.ofReport fun report => report.problem = some problem.id)).isEmpty := by
    funext problem
    rw [← counted]
    exact Bool.and_true _
  simp only [listed, counted]
  rw [← split, add_sub_cancel_left]
  apply exactSum_regroup fun problem : Problem =>
    store.ofReport fun report => report.problem = some problem.id
  · apply sound.apart_of_reports among
    refine (pairwise_rowsOf store.problems).imp fun before report own => ?_
    rw [of_decide_eq_true own]
    exact decide_eq_false fun same => Int.ne_of_lt before (Option.some.inj same)
  · intro bucket inside
    obtain ⟨report, present, test⟩ := sound.exists_report (among bucket inside)
    have owner := (List.mem_filter.1 inside).2
    rw [test, Bool.not_eq_true', Option.isNone_eq_false_iff, Option.isSome_iff_exists] at owner
    obtain ⟨id, belongs⟩ := owner
    have refers := (sound.report report present).1
    rw [belongs, Option.all_some] at refers
    obtain ⟨problem, listed, same⟩ := refers_iff.1 refers
    refine ⟨problem, listed, (test _).trans (decide_eq_true ?_)⟩
    rw [belongs, ← same]
    rfl

/-- When the history sum of all releases can be read, so can the ranking of all problems. Its counts
add up to the history sum less the counts of the buckets whose reports have no problem. -/
lemma Sound.rank_of_historySum (sound : store.Sound) {n : Int}
    (read : store.historySum none none granularity = .ok n) :
    ∃ rows, ∃ loose : List Int, store.rank ⟨granularity, .all, none, []⟩ = .ok rows ∧
      (store.looseBuckets granularity).map Bucket.count = loose.map Tally.exact ∧
      (rows.map RankedProblem.count).sum = n - loose.sum := by
  -- the history sum is that of all buckets
  obtain ⟨releases, scope, total⟩ := exists_scope_of_historySum read
  rw [List.filter_eq_self.2 fun bucket member => sound.has_of_scope_all scope member] at total
  have part := Total.ofTallies_filter (sound.positive granularity) total
  have fits : RankQuery.Fits ⟨granularity, .all, none, []⟩ :=
    ⟨Nat.zero_le maxBound, (by decide : 4 ≤ maxDepth)⟩
  obtain ⟨rows, ranked⟩ := exists_rank_of_exact
    (⟨fits, sound.tables _, sound.tables _, sound.tables _, nofun⟩ :
      store.Holds ⟨granularity, .all, none, []⟩)
    fun problem _ => ⟨_, by rw [countedFor_none]; exact part _⟩
  have loose := part (store.ofReport fun report => report.problem.isNone)
  refine ⟨rows, _, ranked, map_exactPart_of_exact (Total.ofTallies_eq_exact_iff.1 loose).1, ?_⟩
  rw [(rank_eq_of_ok ranked).1, ((sortByCount_perm _).map _).sum_eq, List.map_map,
    (Total.ofTallies_eq_exact_iff.1 total).2.1, ← exactSum_eq_sum]
  exact sound.sum_countedFor granularity

/-! ### Nothing lost, nothing counted twice -/

/-- After any run of commands that enter, link, record or remove rows, totals are conserved.
Whenever the history sum of an operating system and version can be read, whether they match a
release or not, the counts by component can be read too: they list different components in strict
order with positive counts, which add up to the history sum. When no operating system and no version
is given, the ranking of all problems can be read as well, and its counts add up to the history sum
less the counts of the buckets whose reports have no problem. -/
theorem totals_conserved (commands : List Command)
    (keeps : ∀ command ∈ commands, command.keepsTables = true) (granularity : Granularity) :
    (∀ opsys version n,
      (migrated.run commands).historySum opsys version granularity = .ok n →
      ∃ rows, (migrated.run commands).componentCounts opsys version granularity = .ok rows ∧
        (rows.map ComponentCount.component).Nodup ∧
        (rows.Pairwise fun a b =>
          b.count < a.count ∨ (a.count = b.count ∧ a.component < b.component)) ∧
        (∀ row ∈ rows, 0 < row.count) ∧ (rows.map ComponentCount.count).sum = n) ∧
    ∀ n, (migrated.run commands).historySum none none granularity = .ok n →
      ∃ rows, ∃ loose : List Int,
        (migrated.run commands).rank ⟨granularity, .all, none, []⟩ = .ok rows ∧
        ((migrated.run commands).looseBuckets granularity).map Bucket.count
          = loose.map Tally.exact ∧
        (rows.map RankedProblem.count).sum = n - loose.sum := by
  have sound := sound_migrated.run keeps
  constructor
  · intro opsys version n read
    exact sound.componentCounts_of_historySum read
  · intro n read
    exact sound.rank_of_historySum read

/-- Commands that record occurrences of a report with a problem and of one without. -/
def looseReport : List Command :=
  oneReport newYearsEve ++ [.insertReport none 1 newYearsEve, .record 1 1 newYearsEve 3,
    .record 2 1 newYearsDay 4]

/-- The component of both reports has all of the occurrences, asked for by no operating system or by
one that is not there; the ranking has those of the first report. -/
theorem totals_of_looseReport :
    (migrated.run looseReport).historySum (some "bsd") none .weekly = .ok 7 ∧
      (∃ rows, (migrated.run looseReport).componentCounts (some "bsd") none .weekly = .ok rows ∧
        (rows.map ComponentCount.count).sum = 7) ∧
      ∃ rows, (migrated.run looseReport).rank ⟨.weekly, .all, none, []⟩ = .ok rows ∧
        (rows.map RankedProblem.count).sum = 3 := by
  have unmatched : (migrated.run looseReport).historySum (some "bsd") none .weekly = .ok 7 := rfl
  have every : (migrated.run looseReport).historySum none none .weekly = .ok 7 := rfl
  obtain ⟨components, problems⟩ := totals_conserved looseReport (by decide) .weekly
  obtain ⟨counts, read, -, -, -, sum⟩ := components _ _ 7 unmatched
  obtain ⟨rows, loose, ranked, four, rest⟩ := problems 7 every
  have shown : loose.map Tally.exact = [Tally.exact 4] := four.symm
  rw [List.map_eq_singleton_iff] at shown
  obtain ⟨n, rfl, same⟩ := shown
  cases same
  exact ⟨unmatched, ⟨counts, read, sum⟩, rows, ranked, rest⟩

end Store

end CrashTriage
