import CrashTriage.Ranking.Limits

/-!
# Ranking problems

A ranking sums the selected buckets of each problem and lists the problems that have any, the
greatest count first and equal counts by ascending id. It is one statement to the store, within the
limits of statements. Main statement: the order of a ranking loses no row.
-/

namespace CrashTriage

/-- A problem in a ranking: the occurrences counted for it and the value that it is ranked by. -/
structure RankedProblem where
  problem : Problem
  count : Int
  rank : Float

/-- A problem ranked by its count. -/
def RankedProblem.ofCount (problem : Problem) (count : Int) : RankedProblem :=
  ⟨problem, count, Float.ofInt count⟩

/-- What to rank: the granularity of the buckets, the releases that count, the components that a
problem must be linked to (any problem when there is no such list), and clauses on the buckets. -/
structure RankQuery where
  granularity : Granularity
  releases : ReleaseSelection
  components : Option (List Int)
  clauses : List Clause

namespace RankQuery

/-- Whether a query selects nothing, whatever the store holds. -/
def isEmpty (query : RankQuery) : Bool :=
  query.releases.isEmpty || query.components.any (·.isEmpty)

/-- Whether a query counts a bucket. -/
def counts (query : RankQuery) (share : Share) : Bool :=
  query.releases.has share.bucket.release && query.clauses.all (Clause.holds share)

/-- Whether a query admits a problem, given the links between problems and components. -/
def admits (query : RankQuery) (links : List ComponentLink) (problem : Problem) : Bool :=
  query.components.all fun components =>
    links.any fun link => link.problem = problem.id && link.component ∈ components

/-- The clauses of a query, the releases that count among them. -/
def conditions (query : RankQuery) : List Clause :=
  match query.releases with
  | .all => query.clauses
  | .only ids => .oneOf .release ids :: query.clauses

/-- Reads a query as a statement: its clauses, and then the components bound to it. -/
def read (query : RankQuery) : Except Failure Conjunction := do
  let reading ← query.conditions.foldlM Reading.clause {}
  bindable (reading.bound + (query.components.map List.length).getD 0)
  pure reading.conjunction

end RankQuery

/-- The buckets whose report belongs to a problem, each with that problem. -/
def shares (buckets : List Bucket) (reports : Register Report) (problems : Register Problem) :
    List Share :=
  buckets.filterMap fun bucket => do
    let report ← reports.find? bucket.report
    let problem ← problems.find? (← report.problem)
    pure ⟨bucket, problem⟩

/-- The problems with at least one of some buckets, each with the total of its buckets. -/
def totals (problems : List Problem) (counted : List Share) : List (Problem × Total) :=
  problems.filterMap fun problem =>
    match counted.filter fun share => share.problem.id = problem.id with
    | [] => none
    | own => some (problem, Total.ofTallies (own.map (·.bucket.count)))

/-! ### The order of rows -/

/-- Whether one row comes before another by count, or stands beside it. -/
def RankedProblem.countLE (a b : RankedProblem) : Bool :=
  b.count < a.count || (a.count = b.count && a.problem.id ≤ b.problem.id)

/-- Rows in order of count, the greatest first, and then of id. -/
def sortByCount (rows : List RankedProblem) : List RankedProblem :=
  rows.mergeSort RankedProblem.countLE

theorem RankedProblem.countLE_iff {a b : RankedProblem} :
    a.countLE b = true ↔ b.count < a.count ∨ (a.count = b.count ∧ a.problem.id ≤ b.problem.id) := by
  simp [countLE]

theorem RankedProblem.countLE_trans {a b c : RankedProblem} (hab : a.countLE b = true)
    (hbc : b.countLE c = true) : a.countLE c = true := by
  rw [countLE_iff] at *; omega

theorem RankedProblem.countLE_total (a b : RankedProblem) :
    (a.countLE b || b.countLE a) = true := by
  rw [Bool.or_eq_true, countLE_iff, countLE_iff]; omega

theorem sortByCount_perm (rows : List RankedProblem) : (sortByCount rows).Perm rows :=
  List.mergeSort_perm rows _

theorem pairwise_sortByCount (rows : List RankedProblem) :
    (sortByCount rows).Pairwise fun a b => a.countLE b = true := by
  refine List.pairwise_mergeSort ?_ RankedProblem.countLE_total rows
  exact fun _ _ _ hab hbc => RankedProblem.countLE_trans hab hbc

/-! ### Queries on the store -/

/-- The exact number of a total that is read from a result column. -/
def Total.read (index : Nat) (column : String) : Total → Except Failure Int
  | .exact n => .ok n
  | .overflow => .error .sumOverflow
  | .approximate => .error (.approximateColumn index column)

namespace Store

/-- The problems of a query in order of count. The limits of statements come before the tables, but
the joins are worked out between them: the tables that are summed are looked up before, and the
links after. A sum that leaves 64 bits fails even for a problem that the components leave out, since
sums come first. -/
def rank (store : Store) (query : RankQuery) : Except Failure (List RankedProblem) :=
  if query.isEmpty then .ok []
  else do
    let conjunction ← query.read
    let buckets ← present (.history query.granularity) (store.history.get query.granularity)
    let reports ← present .reports store.reports
    let problems ← present .problems store.problems
    nestable conjunction.joined
    let links ← match query.components with
      | none => pure []
      | some _ => Ledger.rows <$> present .componentLinks store.componentLinks
    let counted := (shares buckets.rows reports problems).filter query.counts
    let sums := totals problems.rows counted
    if sums.any fun (_, total) => total = .overflow then throw .sumOverflow
    let rows ← (sums.filter fun (problem, _) => query.admits links problem).mapM
      fun (problem, total) => do
        pure (RankedProblem.ofCount problem (← total.read 3 "total"))
    pure (sortByCount rows)

/-- The count of each problem in the unfiltered ranking, for all problems or for the given ones, in
ascending order of ids. -/
def sumCounts (store : Store) (problems : Option (List Int)) (releases : ReleaseSelection)
    (granularity : Granularity) : Except Failure (List (Int × Int)) :=
  if problems.any (·.isEmpty) then .ok []
  else do
    let clauses := match problems with
      | none => []
      | some ids => [Clause.oneOf .reportProblem ids]
    let rows ← store.rank ⟨granularity, releases, none, clauses⟩
    pure ((rows.map fun row => (row.problem.id, row.count)).mergeSort fun a b => a.1 ≤ b.1)

end Store

end CrashTriage
