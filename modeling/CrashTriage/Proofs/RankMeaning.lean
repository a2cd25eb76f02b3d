import CrashTriage.Proofs.Soundness
import CrashTriage.Proofs.StatementLimits
import CrashTriage.Proofs.Totals

/-!
# What a ranking lists

The reference meaning of a ranking. It lists the problems that have a counted bucket and that the
components admit, each once, with the exact sum of the buckets counted for it, in strict order. It
depends on the releases and components of the query only by what they contain.
-/

namespace CrashTriage

namespace Store

/-! ### The buckets counted for a problem -/

/-- Whether a query counts a bucket for a problem: the bucket's report belongs to the problem, its
release is selected and all clauses hold. -/
def countsFor (store : Store) (query : RankQuery) (problem : Problem) (bucket : Bucket) : Bool :=
  (rowsOf store.reports).any (fun report =>
      report.id = bucket.report && report.problem = some problem.id)
    && query.counts ⟨bucket, problem⟩

/-- The buckets that a query counts for a problem. -/
def countedFor (store : Store) (query : RankQuery) (problem : Problem) : List Bucket :=
  (store.buckets query.granularity).filter (store.countsFor query problem)

/-- Whether a query lists a problem: some bucket counts for it and the components admit it. -/
def lists (store : Store) (query : RankQuery) (problem : Problem) : Bool :=
  !(store.countedFor query problem).isEmpty
    && query.admits (entriesOf store.componentLinks) problem

variable {store : Store} {query : RankQuery} {problem : Problem} {bucket : Bucket}

/-- A bucket counts for a problem when the three conditions of the query hold. -/
lemma countsFor_iff :
    store.countsFor query problem bucket = true ↔
      (∃ report ∈ rowsOf store.reports,
        report.id = bucket.report ∧ report.problem = some problem.id) ∧
      query.releases.has bucket.release = true ∧
      ∀ clause ∈ query.clauses, clause.holds ⟨bucket, problem⟩ = true := by
  unfold countsFor RankQuery.counts
  simp

/-- A query lists a problem when a bucket counts for it and the components admit it. -/
lemma lists_iff_exists :
    store.lists query problem = true ↔ (∃ bucket, bucket ∈ store.countedFor query problem) ∧
      query.admits (entriesOf store.componentLinks) problem = true := by
  unfold lists
  rw [Bool.and_eq_true, Bool.not_eq_true', List.isEmpty_eq_false_iff_exists_mem]

/-- In terms of the store: some bucket counts for the problem, and one of the components, if there
is a list of them, is linked to it. -/
lemma lists_iff :
    store.lists query problem = true ↔
      (∃ bucket ∈ store.buckets query.granularity,
        store.countsFor query problem bucket = true) ∧
      ∀ components, query.components = some components →
        ∃ link ∈ entriesOf store.componentLinks,
          link.problem = problem.id ∧ link.component ∈ components := by
  rw [lists_iff_exists]
  unfold countedFor RankQuery.admits
  apply and_congr
  · constructor
    · rintro ⟨bucket, inside⟩
      exact ⟨bucket, List.mem_filter.1 inside⟩
    · rintro ⟨bucket, inside⟩
      exact ⟨bucket, List.mem_filter.2 inside⟩
  · cases query.components with
    | none => simp
    | some components => simp

/-- An empty query lists no problem. -/
lemma lists_of_isEmpty (empty : query.isEmpty = true) : store.lists query problem = false := by
  rw [Bool.eq_false_iff]
  intro listed
  obtain ⟨⟨bucket, -, counted⟩, linked⟩ := lists_iff.1 listed
  obtain ⟨-, selected, -⟩ := countsFor_iff.1 counted
  unfold RankQuery.isEmpty at empty
  rw [Bool.or_eq_true] at empty
  rcases empty with releases | components
  · cases shape : query.releases with
    | all =>
      rw [shape] at releases
      cases releases
    | only ids =>
      rw [shape] at releases selected
      rw [ReleaseSelection.isEmpty, List.isEmpty_iff] at releases
      simp [releases, ReleaseSelection.has] at selected
  · cases shape : query.components with
    | none =>
      rw [shape] at components
      cases components
    | some ids =>
      rw [shape, Option.any_some, List.isEmpty_iff] at components
      obtain ⟨link, -, -, member⟩ := linked ids shape
      rw [components] at member
      cases member

/-- An empty query ranks nothing, whatever the store holds. -/
lemma rank_of_isEmpty (store : Store) (empty : query.isEmpty = true) :
    store.rank query = .ok [] := by
  unfold rank
  rw [if_pos empty]

/-- A query to which too many values are bound fails, whatever the store holds. -/
lemma rank_of_unbound (store : Store) (nonempty : query.isEmpty = false)
    (shallow : nesting query.conditions ≤ maxDepth) (many : maxBound < query.bound) :
    store.rank query = .error .tooManyValues := by
  unfold rank
  rw [nonempty, if_neg Bool.false_ne_true,
    RankQuery.read_of_leading (le_trans (leading_le_nesting _) shallow),
    if_neg (Nat.not_le.2 many)]
  rfl

/-! ### From the joined tables to the counted buckets -/

/-- The buckets counted for a problem are those of its shares that the query counts. -/
lemma shares_of_problem {buckets : List Bucket} {reports : Register Report}
    {problems : Register Problem} (query : RankQuery) (member : problem ∈ problems.rows) :
    ((shares buckets reports problems).filter query.counts).filter
        (fun share => share.problem.id = problem.id)
      = (buckets.filter fun bucket => (reports.rows.any fun report =>
          report.id = bucket.report && report.problem = some problem.id)
            && query.counts ⟨bucket, problem⟩).map fun bucket => ⟨bucket, problem⟩ := by
  unfold shares
  rw [List.filter_filter, List.filter_filterMap]
  apply filterMap_eq_map_filter
  intro bucket _
  have reached : (reports.rows.any fun report =>
      report.id = bucket.report && report.problem = some problem.id)
      = (reports.find? bucket.report).any (·.problem = some problem.id) := Register.any_id_and
  rw [reached]
  cases found : reports.find? bucket.report with
  | none => rfl
  | some report =>
    cases belongs : report.problem with
    | none => simp [belongs]
    | some id =>
      cases there : problems.find? id with
      | none =>
        -- the problem itself is present, so the report belongs to another one
        have other : id ≠ problem.id := by
          rintro rfl
          have found : problems.find? problem.id = some problem := Register.find?_id member
          rw [found] at there
          cases there
        simp [belongs, there, other]
      | some owner =>
        obtain ⟨present, same⟩ := Register.find?_eq_some_iff.1 there
        by_cases own : id = problem.id
        · have owner_eq : owner = problem := Register.eq_of_id_eq present member (same.trans own)
          subst own owner_eq
          simp only [belongs, there, Option.any_some, decide_true, Bool.true_and, pure,
            Option.bind_eq_bind, Option.bind_some, Option.filter_some]
        · have other : owner.id ≠ problem.id := fun h => own (same.symm.trans h)
          simp [belongs, there, own, other]

/-- The totals of the joined tables are those of the problems with a counted bucket. -/
lemma totals_of_shares {buckets : Ledger Bucket} {reports : Register Report}
    (problems : Register Problem)
    (foundBuckets : store.history.get query.granularity = some buckets)
    (foundReports : store.reports = some reports) :
    totals problems.rows ((shares buckets.rows reports problems).filter query.counts)
      = (problems.rows.filter fun problem => !(store.countedFor query problem).isEmpty).map
          fun problem =>
            (problem, Total.ofTallies ((store.countedFor query problem).map Bucket.count)) := by
  have own (problem : Problem) (member : problem ∈ problems.rows) :
      ((shares buckets.rows reports problems).filter query.counts).filter
        (fun share => share.problem.id = problem.id)
      = (store.countedFor query problem).map fun bucket => ⟨bucket, problem⟩ := by
    rw [shares_of_problem query member]
    unfold countedFor countsFor Store.buckets
    rw [foundBuckets, foundReports]
    rfl
  unfold totals
  apply filterMap_eq_map_filter
  intro problem member
  rw [own problem member]
  cases store.countedFor query problem with
  | nil => rfl
  | cons bucket rest => simp [Function.comp_def]

/-- Restricted to the problems that the components admit, they are those of the listed problems. -/
lemma admitted_totals_of_shares {buckets : Ledger Bucket} {reports : Register Report}
    (problems : Register Problem)
    (foundBuckets : store.history.get query.granularity = some buckets)
    (foundReports : store.reports = some reports) :
    (totals problems.rows ((shares buckets.rows reports problems).filter query.counts)).filter
        (fun pair => query.admits (entriesOf store.componentLinks) pair.1)
      = (problems.rows.filter (store.lists query)).map fun problem =>
          (problem, Total.ofTallies ((store.countedFor query problem).map Bucket.count)) := by
  rw [totals_of_shares problems foundBuckets foundReports, List.filter_map, List.filter_filter]
  congr 1
  apply List.filter_congr
  intro problem _
  exact Bool.and_comm _ _

/-! ### When a ranking succeeds -/

/-- A statement takes a query, and the tables that it reads are present. -/
structure Holds (store : Store) (query : RankQuery) : Prop where
  fits : query.Fits
  buckets : store.has (.history query.granularity) = true
  reports : store.has .reports = true
  problems : store.has .problems = true
  links : query.components.isSome = true → store.has .componentLinks = true

/-- A ranking that succeeds has been read and has found its tables. -/
lemma holds_of_rank {rows : List RankedProblem} (nonempty : query.isEmpty = false)
    (ranked : store.rank query = .ok rows) : store.Holds query := by
  unfold rank at ranked
  rw [nonempty, if_neg Bool.false_ne_true] at ranked
  simp only [bind_eq_ok_iff, present_eq_ok_iff] at ranked
  obtain ⟨conjunction, read, buckets, foundBuckets, reports, foundReports, problems, foundProblems,
    _, joined, ranked⟩ := ranked
  refine ⟨RankQuery.exists_read_iff_fits.1 ⟨conjunction, read, nestable_eq_ok_iff.1 joined⟩,
    Option.isSome_iff_exists.2 ⟨buckets, foundBuckets⟩,
    Option.isSome_iff_exists.2 ⟨reports, foundReports⟩,
    Option.isSome_iff_exists.2 ⟨problems, foundProblems⟩, fun listed => ?_⟩
  obtain ⟨components, shape⟩ := Option.isSome_iff_exists.1 listed
  rw [shape] at ranked
  simp only [bind_eq_ok_iff, map_eq_ok_iff, present_eq_ok_iff] at ranked
  obtain ⟨-, ⟨table, foundLinks, -⟩, -⟩ := ranked
  exact Option.isSome_iff_exists.2 ⟨table, foundLinks⟩

/-- A query that is nested too deep by the joins alone fails once the tables that are summed have
been found. -/
lemma rank_of_joined (nonempty : query.isEmpty = false) (bound : query.bound ≤ maxBound)
    (shallow : leading query.conditions + 2 ≤ maxDepth) (deep : maxDepth < nesting query.conditions)
    (hasBuckets : store.has (.history query.granularity) = true)
    (hasReports : store.has .reports = true) (hasProblems : store.has .problems = true) :
    store.rank query = .error .tooDeep := by
  obtain ⟨buckets, foundBuckets⟩ := Option.isSome_iff_exists.1 hasBuckets
  obtain ⟨reports, foundReports⟩ := Option.isSome_iff_exists.1 hasReports
  obtain ⟨problems, foundProblems⟩ := Option.isSome_iff_exists.1 hasProblems
  have joined : nestable (conjunctionOf query.conditions).joined = .error .tooDeep :=
    if_neg fun fits => absurd ((nesting_le_iff_joined shallow).2 fits) (Nat.not_le.2 deep)
  unfold rank
  rw [nonempty, if_neg Bool.false_ne_true, RankQuery.read_of_leading shallow, if_pos bound,
    foundBuckets, foundReports, foundProblems]
  simp only [present, ok_bind, joined]
  rfl

/-- A store with the same tables has those that a query reads, too. -/
lemma Holds.of_has {after : Store} (holds : store.Holds query)
    (tables : ∀ table, after.has table = store.has table) : after.Holds query where
  fits := holds.fits
  buckets := (tables _).trans holds.buckets
  reports := (tables _).trans holds.reports
  problems := (tables _).trans holds.problems
  links listed := (tables _).trans (holds.links listed)

/-- What a ranking computes on its tables: it fails when the total of some problem overflows, and
otherwise it reads the totals of the listed problems. -/
lemma rank_of_holds (nonempty : query.isEmpty = false) (holds : store.Holds query) :
    store.rank query =
      if (rowsOf store.problems).any (fun problem =>
        Total.ofTallies ((store.countedFor query problem).map Bucket.count) = .overflow)
      then .error .sumOverflow
      else sortByCount <$>
        ((((rowsOf store.problems).filter (store.lists query)).map fun problem =>
          (problem, Total.ofTallies ((store.countedFor query problem).map Bucket.count))).mapM
            fun pair => do
              pure (RankedProblem.ofCount pair.1 (← pair.2.read 3 "total"))) := by
  obtain ⟨buckets, foundBuckets⟩ := Option.isSome_iff_exists.1 holds.buckets
  obtain ⟨reports, foundReports⟩ := Option.isSome_iff_exists.1 holds.reports
  obtain ⟨problems, foundProblems⟩ := Option.isSome_iff_exists.1 holds.problems
  have summed := totals_of_shares problems foundBuckets foundReports
  have listed := admitted_totals_of_shares problems foundBuckets foundReports
  rw [foundProblems, rowsOf_some, ← any_overflow, ← summed, ← listed]
  obtain ⟨conjunction, read, joined⟩ := RankQuery.exists_read_iff_fits.2 holds.fits
  have nested : nestable conjunction.joined = .ok () := nestable_eq_ok_iff.2 joined
  unfold rank
  rw [nonempty, if_neg Bool.false_ne_true, read, foundBuckets, foundReports, foundProblems]
  simp only [present, ok_bind, nested]
  -- the links are read only when there is a list of components
  cases shape : query.components with
  | none =>
    have admits : query.admits [] = query.admits (entriesOf store.componentLinks) := by
      funext problem
      unfold RankQuery.admits
      rw [shape]
      rfl
    rw [← admits]
    rfl
  | some components =>
    obtain ⟨links, foundLinks⟩ := Option.isSome_iff_exists.1 (holds.links (by rw [shape]; rfl))
    rw [foundLinks]
    rfl

/-- When a ranking succeeds, it shows the listed problems in order, each with the exact sum of the
buckets counted for it. -/
theorem rank_eq_of_ok {rows : List RankedProblem} (ranked : store.rank query = .ok rows) :
    rows = sortByCount (((rowsOf store.problems).filter (store.lists query)).map fun problem =>
        .ofCount problem (exactSum ((store.countedFor query problem).map Bucket.count))) ∧
      ∀ problem ∈ rowsOf store.problems, store.lists query problem = true →
        Total.ofTallies ((store.countedFor query problem).map Bucket.count)
          = .exact (exactSum ((store.countedFor query problem).map Bucket.count)) := by
  cases empty : query.isEmpty with
  | true =>
    rw [rank_of_isEmpty store empty] at ranked
    cases ranked
    have unlisted (problem : Problem) : store.lists query problem = false := lists_of_isEmpty empty
    have nothing : (rowsOf store.problems).filter (store.lists query) = [] := by
      rw [List.filter_eq_nil_iff]
      intro problem _
      rw [unlisted problem]
      exact Bool.false_ne_true
    constructor
    · rw [nothing, List.map_nil, sortByCount, List.mergeSort_nil]
    · intro problem _ listed
      rw [unlisted problem] at listed
      cases listed
  | false =>
    rw [rank_of_holds empty (holds_of_rank empty ranked)] at ranked
    split at ranked
    · cases ranked
    · obtain ⟨shown, read, sorted⟩ := map_eq_ok_iff.1 ranked
      obtain ⟨shape, exact⟩ := read_totals RankedProblem.ofCount read
      rw [← sorted, shape]
      refine ⟨rfl, fun problem member listed => ?_⟩
      exact exact problem (List.mem_filter.2 ⟨member, listed⟩)

/-- A ranking that succeeds has an exact total for every problem that the components admit, also for
one without a counted bucket. -/
lemma total_of_admitted {rows : List RankedProblem} (ranked : store.rank query = .ok rows)
    (member : problem ∈ rowsOf store.problems)
    (admitted : query.admits (entriesOf store.componentLinks) problem = true) :
    ∃ n, Total.ofTallies ((store.countedFor query problem).map Bucket.count) = .exact n := by
  by_cases counted : store.countedFor query problem = []
  · rw [counted]
    exact ⟨0, Total.ofTallies_nil⟩
  · obtain ⟨bucket, inside⟩ := List.exists_mem_of_ne_nil _ counted
    exact ⟨_, (rank_eq_of_ok ranked).2 problem member
      (lists_iff_exists.2 ⟨⟨bucket, inside⟩, admitted⟩)⟩

/-- A ranking that succeeds has met no total that overflows, listed or not. -/
lemma total_ne_overflow_of_rank {rows : List RankedProblem} (nonempty : query.isEmpty = false)
    (ranked : store.rank query = .ok rows) (problem : Problem)
    (member : problem ∈ rowsOf store.problems) :
    Total.ofTallies ((store.countedFor query problem).map Bucket.count) ≠ .overflow := by
  rw [rank_of_holds nonempty (holds_of_rank nonempty ranked)] at ranked
  split at ranked
  · cases ranked
  · rename_i fits
    rw [Bool.not_eq_true, List.any_eq_false] at fits
    intro overflows
    exact fits problem member (decide_eq_true overflows)

/-- When the tables of a query are present, no total overflows and those of the listed problems are
exact, the ranking succeeds and shows them. -/
lemma rank_of_listed_exact (nonempty : query.isEmpty = false) (holds : store.Holds query)
    (fits : ∀ problem ∈ rowsOf store.problems,
      Total.ofTallies ((store.countedFor query problem).map Bucket.count) ≠ .overflow)
    (exact : ∀ problem ∈ rowsOf store.problems, store.lists query problem = true →
      Total.ofTallies ((store.countedFor query problem).map Bucket.count)
        = .exact (exactSum ((store.countedFor query problem).map Bucket.count))) :
    store.rank query
      = .ok (sortByCount (((rowsOf store.problems).filter (store.lists query)).map fun problem =>
        .ofCount problem (exactSum ((store.countedFor query problem).map Bucket.count)))) := by
  have none : ¬ (rowsOf store.problems).any (fun problem =>
      Total.ofTallies ((store.countedFor query problem).map Bucket.count) = .overflow) := by
    rw [Bool.not_eq_true, List.any_eq_false]
    intro problem member overflows
    exact fits problem member (of_decide_eq_true overflows)
  rw [rank_of_holds nonempty holds, if_neg none,
    read_totals_of_exact RankedProblem.ofCount 3 "total" fun problem listed =>
      exact problem (List.mem_filter.1 listed).1 (List.mem_filter.1 listed).2]
  rfl

/-- When the tables of a query are present and the total of every problem is exact, the ranking
succeeds. -/
lemma exists_rank_of_exact (holds : store.Holds query)
    (exact : ∀ problem ∈ rowsOf store.problems, ∃ n,
      Total.ofTallies ((store.countedFor query problem).map Bucket.count) = .exact n) :
    ∃ rows, store.rank query = .ok rows := by
  cases empty : query.isEmpty with
  | true => exact ⟨[], rank_of_isEmpty store empty⟩
  | false =>
    refine ⟨_, rank_of_listed_exact empty holds ?_ ?_⟩
    · intro problem member
      obtain ⟨n, total⟩ := exact problem member
      rw [total]
      nofun
    · intro problem member _
      obtain ⟨n, total⟩ := exact problem member
      rw [total, (Total.ofTallies_eq_exact_iff.1 total).2.1]

/-! ### The reference meaning -/

/-- A row of a successful ranking is that of a listed problem. -/
lemma mem_rank_iff {rows : List RankedProblem} (ranked : store.rank query = .ok rows)
    {row : RankedProblem} :
    row ∈ rows ↔ ∃ problem ∈ rowsOf store.problems, store.lists query problem = true ∧
      row = .ofCount problem (exactSum ((store.countedFor query problem).map Bucket.count)) := by
  rw [(rank_eq_of_ok ranked).1, (sortByCount_perm _).mem_iff, List.mem_map]
  constructor
  · rintro ⟨problem, inside, rfl⟩
    obtain ⟨member, listed⟩ := List.mem_filter.1 inside
    exact ⟨problem, member, listed, rfl⟩
  · rintro ⟨problem, member, listed, rfl⟩
    exact ⟨problem, List.mem_filter.2 ⟨member, listed⟩, rfl⟩

/-- A ranking has a row for the problems that are listed. -/
lemma exists_row_iff {rows : List RankedProblem} (ranked : store.rank query = .ok rows) :
    (∃ row ∈ rows, row.problem = problem) ↔
      problem ∈ rowsOf store.problems ∧ store.lists query problem = true := by
  constructor
  · rintro ⟨row, member, rfl⟩
    obtain ⟨problem, present, listed, rfl⟩ := (mem_rank_iff ranked).1 member
    exact ⟨present, listed⟩
  · rintro ⟨present, listed⟩
    exact ⟨_, (mem_rank_iff ranked).2 ⟨problem, present, listed, rfl⟩, rfl⟩

/-- A row of a ranking shows the exact sum of the buckets counted for its problem. -/
lemma exists_counts_of_mem_rank {rows : List RankedProblem} (ranked : store.rank query = .ok rows)
    {row : RankedProblem} (member : row ∈ rows) :
    ∃ counts : List Int,
      (store.countedFor query row.problem).map Bucket.count = counts.map Tally.exact ∧
        row = .ofCount row.problem counts.sum := by
  obtain ⟨problem, present, listed, rfl⟩ := (mem_rank_iff ranked).1 member
  have total := (rank_eq_of_ok ranked).2 problem present listed
  have exact := (Total.ofTallies_eq_exact_iff.1 total).1
  refine ⟨((store.countedFor query problem).map Bucket.count).map Tally.exactPart,
    map_exactPart_of_exact exact, ?_⟩
  rw [exactSum_eq_sum]
  rfl

/-- No problem has two rows in a ranking. -/
lemma nodup_rank {rows : List RankedProblem} (ranked : store.rank query = .ok rows) :
    (rows.map fun row => row.problem.id).Nodup := by
  rw [(rank_eq_of_ok ranked).1, ((sortByCount_perm _).map _).nodup_iff, List.map_map]
  have ascending := (pairwise_rowsOf store.problems).filter (store.lists query)
  apply List.pairwise_map.2
  apply ascending.imp
  intro a b before
  exact Int.ne_of_lt before

/-- The rows of a ranking are in strict order, the greatest count first and equal counts by
ascending id. -/
lemma strict_rank {rows : List RankedProblem} (ranked : store.rank query = .ok rows) :
    rows.Pairwise fun a b =>
      b.count < a.count ∨ (a.count = b.count ∧ a.problem.id < b.problem.id) := by
  have ordered : rows.Pairwise fun a b => a.countLE b = true := by
    rw [(rank_eq_of_ok ranked).1]
    exact pairwise_sortByCount _
  have distinct := List.pairwise_map.1 (nodup_rank ranked)
  apply (ordered.and distinct).imp
  intro a b both
  have order := RankedProblem.countLE_iff.1 both.1
  have differ : a.problem.id ≠ b.problem.id := both.2
  omega

/-- A ranking depends on its query by how it is read, by the buckets that it counts and by the
problems that it admits. -/
lemma rank_congr (store : Store) {q q' : RankQuery} (granularity : q.granularity = q'.granularity)
    (empty : q.isEmpty = q'.isEmpty) (read : q.isEmpty = false → q.read = q'.read)
    (counts : q.counts = q'.counts) (admits : q.admits = q'.admits)
    (listed : q.components.isSome = q'.components.isSome) : store.rank q = store.rank q' := by
  cases some : q.isEmpty with
  | true =>
    rw [rank_of_isEmpty store some, rank_of_isEmpty store (empty.symm.trans some)]
  | false =>
    unfold rank
    rw [granularity, empty, read some, counts, admits]
    cases first : q.components with
    | none =>
      cases second : q'.components with
      | none => rfl
      | some ids =>
        rw [first, second] at listed
        cases listed
    | some ids =>
      cases second : q'.components with
      | none =>
        rw [first, second] at listed
        cases listed
      | some ids' => rfl

/-- Lists with the same members select the same releases, if they are read alike. -/
lemma rank_releases_congr (store : Store) {query : RankQuery} {ids ids' : List Int}
    (same : ∀ id, id ∈ ids ↔ id ∈ ids')
    (read : (query.ofReleases ids).isEmpty = false →
      (query.ofReleases ids).read = (query.ofReleases ids').read) :
    store.rank (query.ofReleases ids) = store.rank (query.ofReleases ids') := by
  apply rank_congr
  · rfl
  · exact RankQuery.isEmpty_ofReleases_congr same
  · exact read
  · funext share
    simp only [RankQuery.ofReleases, RankQuery.counts, ReleaseSelection.has, same]
  · rfl
  · rfl

/-- Lists with the same members admit the same problems, if they are read alike. -/
lemma rank_components_congr (store : Store) {query : RankQuery} {ids ids' : List Int}
    (same : ∀ id, id ∈ ids ↔ id ∈ ids')
    (read : (query.ofComponents ids).isEmpty = false →
      (query.ofComponents ids).read = (query.ofComponents ids').read) :
    store.rank (query.ofComponents ids) = store.rank (query.ofComponents ids') := by
  apply rank_congr
  · rfl
  · exact RankQuery.isEmpty_ofComponents_congr same
  · exact read
  · rfl
  · funext links problem
    simp only [RankQuery.ofComponents, RankQuery.admits, Option.all_some, same]
  · rfl

/-- What a ranking means. When it succeeds, it has exactly one row for each problem that some
selected bucket reaches through a report of the problem, that meets all clauses there and that is
linked to a listed component if there is a list; the row shows the problem as it is stored and the
exact sum of the buckets counted for it, and the rows are in strict order. The order of releases and
components does not matter, nor does it how often they are listed while they can be bound, and
without any of them nothing is ranked. -/
theorem rank_meaning (store : Store) (query : RankQuery) :
    (∀ rows, store.rank query = .ok rows →
      (∀ problem, (∃ row ∈ rows, row.problem = problem) ↔
        problem ∈ rowsOf store.problems ∧
          (∃ bucket ∈ store.buckets query.granularity,
            (∃ report ∈ rowsOf store.reports,
              report.id = bucket.report ∧ report.problem = some problem.id) ∧
            query.releases.has bucket.release = true ∧
            ∀ clause ∈ query.clauses, clause.holds ⟨bucket, problem⟩ = true) ∧
          ∀ components, query.components = some components →
            ∃ link ∈ entriesOf store.componentLinks,
              link.problem = problem.id ∧ link.component ∈ components) ∧
      (rows.map fun row => row.problem.id).Nodup ∧
      (∀ row ∈ rows, ∃ counts : List Int,
        (store.countedFor query row.problem).map Bucket.count = counts.map Tally.exact ∧
          row = .ofCount row.problem counts.sum) ∧
      rows.Pairwise fun a b =>
        b.count < a.count ∨ (a.count = b.count ∧ a.problem.id < b.problem.id)) ∧
    (∀ ids ids' : List Int, ids.Perm ids' →
      store.rank (query.ofReleases ids) = store.rank (query.ofReleases ids') ∧
        store.rank (query.ofComponents ids) = store.rank (query.ofComponents ids')) ∧
    (∀ ids ids' : List Int, (∀ id, id ∈ ids ↔ id ∈ ids') →
      ((query.ofReleases ids).IsBindable → (query.ofReleases ids').IsBindable →
          store.rank (query.ofReleases ids) = store.rank (query.ofReleases ids')) ∧
        ((query.ofComponents ids).IsBindable → (query.ofComponents ids').IsBindable →
          store.rank (query.ofComponents ids) = store.rank (query.ofComponents ids'))) ∧
    store.rank (query.ofReleases []) = .ok [] ∧ store.rank (query.ofComponents []) = .ok [] := by
  refine ⟨fun rows ranked => ⟨fun problem => ?_, nodup_rank ranked, fun row member => ?_,
    strict_rank ranked⟩, fun ids ids' ordered => ⟨?_, ?_⟩, fun ids ids' same => ⟨?_, ?_⟩, ?_, ?_⟩
  · have listing : store.lists query problem = true ↔ _ := lists_iff
    simp only [countsFor_iff] at listing
    rw [← listing]
    constructor
    · rintro ⟨row, member, rfl⟩
      obtain ⟨problem, present, listed, rfl⟩ := (mem_rank_iff ranked).1 member
      exact ⟨present, listed⟩
    · rintro ⟨present, listed⟩
      exact ⟨_, (mem_rank_iff ranked).2 ⟨problem, present, listed, rfl⟩, rfl⟩
  · exact exists_counts_of_mem_rank ranked member
  · exact rank_releases_congr store (fun _ => ordered.mem_iff) fun _ =>
      RankQuery.read_ofReleases_of_length ordered.length_eq
  · exact rank_components_congr store (fun _ => ordered.mem_iff) fun _ =>
      RankQuery.read_ofComponents_of_length ordered.length_eq
  · intro bound bound'
    refine rank_releases_congr store same fun some => ?_
    have some' := (RankQuery.isEmpty_ofReleases_congr same).symm.trans some
    exact RankQuery.read_ofReleases_congr same (bound some) (bound' some')
  · intro bound bound'
    refine rank_components_congr store same fun some => ?_
    have some' := (RankQuery.isEmpty_ofComponents_congr same).symm.trans some
    exact RankQuery.read_congr (bound some) (bound' some') rfl
  · exact rank_of_isEmpty store rfl
  · apply rank_of_isEmpty
    unfold RankQuery.isEmpty RankQuery.ofComponents
    rw [Option.any_some, List.isEmpty_nil, Bool.or_true]

/-- A list of more releases than can be bound is not ranked. -/
lemma rank_of_many_releases (store : Store) (granularity : Granularity) {ids : List Int}
    (many : maxBound < ids.length) :
    store.rank ⟨granularity, .only ids, none, []⟩ = .error .tooManyValues := by
  have nonempty : ids.isEmpty = false := by
    rw [List.isEmpty_eq_false_iff, ← List.length_pos_iff]
    exact Nat.zero_lt_of_lt many
  refine rank_of_unbound store ?_ (le_trans (nesting_le _) (of_decide_eq_true rfl)) many
  change (ids.isEmpty || false) = false
  rw [nonempty, Bool.or_false]

/-- A release that is listed once is ranked, and listed again and again it is not: there are more
values than can be bound. -/
theorem repetition_reaches_limit :
    (∀ id, id ∈ [(1 : Int)] ↔ id ∈ List.replicate 32767 (1 : Int)) ∧
      migrated.rank ⟨.daily, .only [1], none, []⟩ = .ok [] ∧
      migrated.rank ⟨.daily, .only (List.replicate 32767 1), none, []⟩
        = .error .tooManyValues := by
  have once : migrated.rank ⟨.daily, .only [1], none, []⟩ = .ok (sortByCount []) := rfl
  refine ⟨fun id => ?_, ?_, rank_of_many_releases migrated .daily ?_⟩
  · rw [List.mem_singleton, List.mem_replicate, and_iff_right (by decide)]
  · rw [once, sortByCount, List.mergeSort_nil]
  · rw [List.length_replicate]
    decide

/-- The weeks of one release and one component, the release named twice. -/
def weeklyQuery : RankQuery := ⟨.weekly, .only [1, 1], some [1], [.oneOf .problemId [1, 2]]⟩

/-- The one problem with occurrences is ranked, and its row shows all of them. -/
theorem rank_of_one_report :
    ∃ rows, (migrated.run (oneReport newYearsEve ++ [.linkComponent 1 1 1,
        .record 1 1 newYearsEve 2, .record 1 1 newYearsDay 3])).rank weeklyQuery = .ok rows ∧
      (∃ row ∈ rows, row.problem = ⟨1, newYearsEve, newYearsDay⟩) ∧
      rows.Pairwise fun a b =>
        b.count < a.count ∨ (a.count = b.count ∧ a.problem.id < b.problem.id) := by
  have ranked : (migrated.run (oneReport newYearsEve ++ [.linkComponent 1 1 1,
      .record 1 1 newYearsEve 2, .record 1 1 newYearsDay 3])).rank weeklyQuery
      = .ok (sortByCount [.ofCount ⟨1, newYearsEve, newYearsDay⟩ 5]) := rfl
  have meaning := (rank_meaning _ _).1 _ ranked
  refine ⟨_, ranked, ⟨.ofCount ⟨1, newYearsEve, newYearsDay⟩ 5, ?_, rfl⟩, meaning.2.2.2⟩
  rw [(sortByCount_perm _).mem_iff]
  exact List.mem_singleton_self _

end Store

end CrashTriage
