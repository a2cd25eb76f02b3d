import CrashTriage.Calendar.Observation
import CrashTriage.Decimal.Bits
import CrashTriage.Ranking.Basic

/-!
# Long-term problems

The ranking of the problems by their occurrences in a month on average, over the whole months in
which they were observed. Averages are floating-point numbers, compared in their total order. Main
statement: rows come by average, then by count, then by id.
-/

namespace CrashTriage

/-- A row ranked by its average over the months observed, if there is such a month. -/
def RankedProblem.average? (last : Date) (row : RankedProblem) : Option RankedProblem :=
  let months := last.observedMonths row.problem.first
  if months ≤ 0 then none
  else some { row with rank := Float.ofInt row.count / Float.ofInt months }

/-- Whether one row comes before another by rank, count and id, or stands beside it. -/
def RankedProblem.rankLE (a b : RankedProblem) : Bool :=
  Decimal.place b.rank < Decimal.place a.rank
    || (Decimal.place a.rank = Decimal.place b.rank && a.countLE b)

/-- Rows ranked by their average over the months observed up to `last`: the greatest average first,
equal averages by count, the greatest first, and then by id. Rows without an observed month are left
out. -/
def prioritize (last : Date) (rows : List RankedProblem) : List RankedProblem :=
  (rows.filterMap (RankedProblem.average? last)).mergeSort RankedProblem.rankLE

theorem RankedProblem.rankLE_iff {a b : RankedProblem} :
    a.rankLE b = true ↔
      Decimal.place b.rank < Decimal.place a.rank
        ∨ (Decimal.place a.rank = Decimal.place b.rank ∧ a.countLE b = true) := by
  simp [rankLE]

theorem RankedProblem.rankLE_trans {a b c : RankedProblem} (hab : a.rankLE b = true)
    (hbc : b.rankLE c = true) : a.rankLE c = true := by
  rw [rankLE_iff, countLE_iff] at *; omega

theorem RankedProblem.rankLE_total (a b : RankedProblem) :
    (a.rankLE b || b.rankLE a) = true := by
  rw [Bool.or_eq_true, rankLE_iff, rankLE_iff, countLE_iff, countLE_iff]; omega

theorem pairwise_prioritize (last : Date) (rows : List RankedProblem) :
    (prioritize last rows).Pairwise fun a b => a.rankLE b = true := by
  refine List.pairwise_mergeSort ?_ RankedProblem.rankLE_total _
  exact fun _ _ _ hab hbc => RankedProblem.rankLE_trans hab hbc

/-- The query behind the long-term ranking: problems that first occurred on `last` or before and
last occurred on it or after, and their buckets from the first occurrence on. -/
def longTermQuery (granularity : Granularity) (releases : ReleaseSelection)
    (components : Option (List Int)) (last : Date) : RankQuery :=
  ⟨granularity, releases, components,
    [.compare .firstOccurrence .le (.date last),
      .compare .firstOccurrence .le (.column .bucketStart),
      .compare .lastOccurrence .ge (.date last)]⟩

/-- The problems ranked by their average over the months observed before the month of `today`, at
the granularity that a token names. -/
def Store.longTermProblems (store : Store) (token : String) (releases : ReleaseSelection)
    (components : Option (List Int)) (today : Date) : Except Failure (List RankedProblem) := do
  let last ← inRange today.firstOfPreviousMonth?
  let rows ← store.rank (longTermQuery (.ofToken token) releases components last)
  pure (prioritize last rows)

end CrashTriage
