import CrashTriage.Proofs.ComponentFilter
import CrashTriage.Proofs.SplitRankings

/-!
# Sums by problem

The sums by problem are the counts of the unfiltered ranking, under the ids of its problems. Sums
for a list of problems come from a ranking of their own, with a clause that names the problems. That
clause counts for each of them what is counted without it, and nothing for any other, so these sums
are the restriction of the sums for all problems, and nothing fails for them that does not fail for
all, unless there are more names than can be bound.
-/

namespace CrashTriage

/-- A clause that names problems holds for their buckets. -/
lemma Clause.holds_oneOf_reportProblem (bucket : Bucket) (problem : Problem) (ids : List Int) :
    (Clause.oneOf .reportProblem ids).holds ⟨bucket, problem⟩ = decide (problem.id ∈ ids) := by
  have equal (n : Int) : Comparison.eq.meets
      (Scalar.compare (.number (.exact problem.id)) (.number (.exact n)))
        = decide (n = problem.id) := by
    change decide (Ord.compare problem.id n = .eq) = _
    rw [decide_eq_decide, Int.compare_eq_eq, eq_comm]
  change (ids.any fun n => Comparison.eq.meets
    (Scalar.compare (.number (.exact problem.id)) (.number (.exact n)))) = _
  rw [Bool.eq_iff_iff, List.any_eq_true, decide_eq_true_iff]
  simp only [equal, decide_eq_true_eq, exists_eq_right]

/-! ### Counts under ids -/

/-- The counts of rows under the ids of their problems, in ascending order. -/
def sumsOf (rows : List RankedProblem) : List (Int × Int) :=
  (rows.map fun row => (row.problem.id, row.count)).mergeSort fun a b => a.1 ≤ b.1

lemma idLE_trans (a b c : Int × Int) (hab : decide (a.1 ≤ b.1) = true)
    (hbc : decide (b.1 ≤ c.1) = true) : decide (a.1 ≤ c.1) = true := by
  rw [decide_eq_true_iff] at *
  exact Int.le_trans hab hbc

lemma idLE_total (a b : Int × Int) : (decide (a.1 ≤ b.1) || decide (b.1 ≤ a.1)) = true := by
  rw [Bool.or_eq_true, decide_eq_true_iff, decide_eq_true_iff]
  exact Int.le_total a.1 b.1

lemma sumsOf_perm (rows : List RankedProblem) :
    (sumsOf rows).Perm (rows.map fun row => (row.problem.id, row.count)) :=
  List.mergeSort_perm _ _

/-- Rows left out by their problems are left out of the sums. -/
lemma filter_sumsOf (ids : List Int) (rows : List RankedProblem) :
    ((sumsOf rows).filter fun pair => pair.1 ∈ ids)
      = sumsOf (rows.filter fun row => row.problem.id ∈ ids) := by
  unfold sumsOf
  rw [filter_mergeSort _ idLE_trans idLE_total, List.filter_map]
  rfl

/-- The sums of different problems have different ids. -/
lemma strict_sumsOf {rows : List RankedProblem}
    (distinct : (rows.map fun row => row.problem.id).Nodup) :
    (sumsOf rows).Pairwise fun a b => a.1 < b.1 := by
  have ascending : (sumsOf rows).Pairwise fun a b => decide (a.1 ≤ b.1) = true :=
    List.pairwise_mergeSort idLE_trans idLE_total _
  have ids : ((sumsOf rows).map Prod.fst).Nodup := by
    rw [((sumsOf_perm rows).map Prod.fst).nodup_iff, List.map_map]
    exact distinct
  refine (ascending.and (List.pairwise_map.1 ids)).imp ?_
  rintro a b ⟨before, differ⟩
  exact Int.lt_iff_le_and_ne.2 ⟨of_decide_eq_true before, differ⟩

/-- Sums under ascending ids are determined by the rows that they come from. -/
lemma eq_sumsOf {rows : List RankedProblem} {sums : List (Int × Int)}
    (same : sums.Perm (rows.map fun row => (row.problem.id, row.count)))
    (ascending : sums.Pairwise fun a b => a.1 < b.1) : sums = sumsOf rows := by
  have ids : (rows.map fun row => row.problem.id).Nodup := by
    have apart : (sums.map Prod.fst).Nodup :=
      List.pairwise_map.2 (ascending.imp Int.ne_of_lt)
    rw [(same.map Prod.fst).nodup_iff, List.map_map] at apart
    exact apart
  refine List.Perm.eq_of_pairwise ?_ ascending (strict_sumsOf ids)
    (same.trans (sumsOf_perm rows).symm)
  intro a b _ _ before after
  exact absurd after (Int.lt_asymm before)

namespace Store

variable {store : Store} {granularity : Granularity} {releases : ReleaseSelection}

/-! ### The ranking behind the sums -/

/-- The sums for all problems are those of the unfiltered ranking. -/
lemma sumCounts_none_eq_ok_iff {sums : List (Int × Int)} :
    store.sumCounts none releases granularity = .ok sums ↔
      ∃ rows, store.rank ⟨granularity, releases, none, []⟩ = .ok rows ∧ sumsOf rows = sums := by
  unfold sumCounts
  rw [Option.any_none, if_neg Bool.false_ne_true]
  simp only [bind_eq_ok_iff, pure_eq_ok_iff]
  rfl

/-- The sums for some problems are those of the ranking with a clause that names them. -/
lemma sumCounts_some {ids : List Int} (named : ids ≠ []) :
    store.sumCounts (some ids) releases granularity
      = sumsOf <$> store.rank ⟨granularity, releases, none, [.oneOf .reportProblem ids]⟩ := by
  unfold sumCounts
  rw [Option.any_some, List.isEmpty_eq_false_iff.2 named, if_neg Bool.false_ne_true]
  dsimp only
  cases store.rank ⟨granularity, releases, none, [.oneOf .reportProblem ids]⟩ <;> rfl

/-- The clause counts for the problems that it names what is counted without it. -/
lemma countedFor_oneOf (ids : List Int) (problem : Problem) :
    store.countedFor ⟨granularity, releases, none, [.oneOf .reportProblem ids]⟩ problem =
      if problem.id ∈ ids then store.countedFor ⟨granularity, releases, none, []⟩ problem
      else [] := by
  rw [countedFor_of_isPart (isPart_of_clause (List.Perm.refl _))]
  simp only [Clause.holds_oneOf_reportProblem]
  split
  · rename_i named
    exact List.filter_eq_self.2 fun _ _ => decide_eq_true named
  · rename_i unnamed
    exact List.filter_eq_nil_iff.2 fun _ _ => by rw [decide_eq_false unnamed]; exact nofun

/-- A ranking of named problems is the unfiltered ranking restricted to them, as long as their names
can be bound. -/
lemma rank_oneOf {ids : List Int} {rows : List RankedProblem}
    (ranked : store.rank ⟨granularity, releases, none, []⟩ = .ok rows) :
    store.rank ⟨granularity, releases, none, [.oneOf .reportProblem ids]⟩
      = if releases.BindableWith ids.length
        then .ok (rows.filter fun row => row.problem.id ∈ ids) else .error .tooManyValues := by
  have empty := RankQuery.isEmpty_free granularity releases
  have bound := RankQuery.bound_eq ⟨granularity, releases, none, [.oneOf .reportProblem ids]⟩
  have shallow : nesting (RankQuery.conditions
      ⟨granularity, releases, none, [.oneOf .reportProblem ids]⟩) ≤ maxDepth := by
    refine le_trans (nesting_le _) ?_
    exact le_trans (Nat.add_le_add_right (RankQuery.length_conditions_le _) 4)
      (of_decide_eq_true rfl)
  split
  · rename_i bindable
    refine rank_restricted (fun problem => problem.id ∈ ids) rfl ?_ ?_ ?_ ?_ ranked
    · intro nothing
      exact nothing
    · intro some holds
      refine ⟨⟨?_, shallow⟩, holds.buckets, holds.reports, holds.problems, nofun⟩
      rw [bound]
      exact bindable ((empty []).symm.trans some)
    · intro problem
      rw [countedFor_oneOf]
      split
      · exact .inl rfl
      · rename_i unnamed
        exact .inr ⟨decide_eq_false unnamed, rfl⟩
    · intro problem
      unfold lists
      rw [countedFor_oneOf]
      split
      · rename_i named
        rw [decide_eq_true named, Bool.and_true]
        rfl
      · rename_i unnamed
        rw [decide_eq_false unnamed, Bool.and_false]
        rfl
  · rename_i many
    obtain ⟨some, many⟩ := Classical.not_imp.1 many
    refine rank_of_unbound store ((empty _).trans some) shallow ?_
    rw [bound]
    exact Nat.not_le.1 many

/-- The sums by problem agree with the ranking. The sums for all problems can be given exactly when
the unfiltered ranking of the same releases at the same granularity can; they are the counts of its
rows under the ids of their problems, each id once and in ascending order. Then the sums can also be
given for any list of problems whose ids can be bound along with the releases, whether it is empty,
repeats ids or names problems that do not exist, and are those of all problems restricted to the
list. -/
theorem sums_agree_with_ranking (store : Store) (releases : ReleaseSelection)
    (granularity : Granularity) :
    (∀ sums, store.sumCounts none releases granularity = .ok sums ↔
      ∃ rows, store.rank ⟨granularity, releases, none, []⟩ = .ok rows ∧
        sums.Perm (rows.map fun row => (row.problem.id, row.count)) ∧
        sums.Pairwise fun a b => a.1 < b.1) ∧
    ∀ sums, store.sumCounts none releases granularity = .ok sums →
      ∀ ids, store.sumCounts (some ids) releases granularity
        = if releases.BindableWith ids.length
          then .ok (sums.filter fun pair => pair.1 ∈ ids) else .error .tooManyValues := by
  constructor
  · intro sums
    rw [sumCounts_none_eq_ok_iff]
    constructor
    · rintro ⟨rows, ranked, rfl⟩
      exact ⟨rows, ranked, sumsOf_perm rows, strict_sumsOf (nodup_rank ranked)⟩
    · rintro ⟨rows, ranked, same, ascending⟩
      exact ⟨rows, ranked, (eq_sumsOf same ascending).symm⟩
  · intro sums summed ids
    obtain ⟨rows, ranked, rfl⟩ := sumCounts_none_eq_ok_iff.1 summed
    by_cases named : ids = []
    · have none : (sumsOf rows).filter (fun pair => pair.1 ∈ ids) = [] :=
        List.filter_eq_nil_iff.2 fun pair _ => by simp [named]
      have bindable : releases.BindableWith ids.length := by
        intro some
        have nonempty := (RankQuery.isEmpty_free granularity releases []).trans some
        have fits := (holds_of_rank nonempty ranked).fits.bound
        rw [RankQuery.bound_eq] at fits
        rw [named]
        exact fits
      rw [none, if_pos bindable, named]
      rfl
    · rw [filter_sumsOf, sumCounts_some named, rank_oneOf ranked]
      split <;> rfl

/-- Sums of more problems than can be bound cannot be given. -/
lemma sumCounts_of_many {rows : List RankedProblem}
    (ranked : store.rank ⟨granularity, .all, none, []⟩ = .ok rows) {ids : List Int}
    (many : maxBound < ids.length) :
    store.sumCounts (some ids) .all granularity = .error .tooManyValues := by
  have named : ids ≠ [] := List.ne_nil_of_length_pos (Nat.zero_lt_of_lt many)
  have beyond : ¬ ReleaseSelection.all.BindableWith ids.length := by
    intro bindable
    have few : 0 + ids.length ≤ maxBound := bindable rfl
    omega
  rw [sumCounts_some named, rank_oneOf ranked, if_neg beyond]
  rfl

/-- Sums that can be given for all problems can fail for some: one that is named again and again
makes more values than can be bound. -/
theorem names_reach_limit :
    migrated.sumCounts none .all .daily = .ok [] ∧
      migrated.sumCounts (some (List.replicate 32767 1)) .all .daily = .error .tooManyValues := by
  have ranked : migrated.rank ⟨.daily, .all, none, []⟩ = .ok (sortByCount []) := rfl
  refine ⟨sumCounts_none_eq_ok_iff.2 ⟨_, ranked, ?_⟩, sumCounts_of_many ranked ?_⟩
  · rw [sortByCount, List.mergeSort_nil, sumsOf, List.map_nil, List.mergeSort_nil]
  · rw [List.length_replicate]
    decide

/-- Of two problems with sums in a week, the one that is named remains, also when it is named twice
and next to one that does not exist, and without any name none remains. -/
theorem sums_of_twoReleases :
    (migrated.run twoReleases).sumCounts none .all .weekly = .ok [(1, 7), (2, 5)] ∧
      (migrated.run twoReleases).sumCounts (some [2, 9, 2]) .all .weekly = .ok [(2, 5)] ∧
      (migrated.run twoReleases).sumCounts (some []) .all .weekly = .ok [] := by
  have ranked : (migrated.run twoReleases).rank ⟨.weekly, .all, none, []⟩
      = .ok (sortByCount [.ofCount spreadProblem 7, .ofCount recentProblem 5]) := rfl
  have counts := (sortByCount_perm [.ofCount spreadProblem 7, .ofCount recentProblem 5]).map
    fun row => (row.problem.id, row.count)
  obtain ⟨agree, restricted⟩ := sums_agree_with_ranking (migrated.run twoReleases) .all .weekly
  have summed : (migrated.run twoReleases).sumCounts none .all .weekly = .ok [(1, 7), (2, 5)] :=
    (agree _).2 ⟨_, ranked, counts.symm, by decide⟩
  refine ⟨summed, (restricted _ summed [2, 9, 2]).trans ?_, (restricted _ summed []).trans ?_⟩
  · rw [if_pos (by decide)]
    rfl
  · rw [if_pos (by decide)]
    rfl

end Store

end CrashTriage
