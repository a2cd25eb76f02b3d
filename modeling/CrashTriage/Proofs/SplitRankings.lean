import CrashTriage.Proofs.RankMeaning
import CrashTriage.Proofs.Sums

/-!
# Split rankings

A test of the buckets and their problems splits what a ranking counts into what passes the test and
what fails it. When one query adds the test to the conditions of another, and a second one adds its
negation, the first ranking is the sum of the other two: each problem of it is in one of them, and
its counts there add up. Two lists without a common release are such a split of the list of both,
and so are a clause and the clause with the complementary comparison: any two values are in one of
three orders, dates, numbers and texts alike, so exactly one of two complementary comparisons holds.
-/

namespace CrashTriage

/-! ### Complementary comparisons -/

namespace Comparison

/-- The comparison that holds when another one does not. -/
def complement : Comparison → Comparison
  | .eq => .ne
  | .ne => .eq
  | .lt => .ge
  | .ge => .lt
  | .le => .gt
  | .gt => .le

lemma meets_complement (comparison : Comparison) (order : Ordering) :
    comparison.complement.meets order = !comparison.meets order := by
  cases comparison <;> cases order <;> rfl

end Comparison

/-- Exactly one of two clauses holds that differ in complementary comparisons. -/
lemma Clause.holds_complement (share : Share) (column : Column) (comparison : Comparison)
    (operand : Operand) :
    (Clause.compare column comparison.complement operand).holds share
      = !(Clause.compare column comparison operand).holds share :=
  comparison.meets_complement _

/-! ### Sums of rankings -/

/-- The count that rows show for a problem, or zero when they do not show it. -/
def countOf (rows : List RankedProblem) (problem : Problem) : Int :=
  (rows.find? fun row => row.problem = problem).elim 0 RankedProblem.count

/-- Whether rows are the sum of two lists of rows: they show the problems that are in one of these,
with the sums of the counts there. -/
def AddsUp (whole first second : List RankedProblem) : Prop :=
  ∀ problem, ((∃ row ∈ whole, row.problem = problem) ↔
      (∃ row ∈ first, row.problem = problem) ∨ ∃ row ∈ second, row.problem = problem) ∧
    countOf whole problem = countOf first problem + countOf second problem

/-- A query that adds a test to the conditions of another one. -/
structure RankQuery.IsPart (part whole : RankQuery) (test : Share → Bool) : Prop where
  granularity : part.granularity = whole.granularity
  components : part.components = whole.components
  counts : ∀ share, part.counts share = (whole.counts share && test share)

namespace Store

variable {store : Store} {query part whole first second : RankQuery} {problem : Problem}
  {test : Share → Bool}

/-- A ranking shows for a problem that is present and admitted the sum of the buckets counted for
it, also when there are none. -/
lemma countOf_rank {rows : List RankedProblem} (ranked : store.rank query = .ok rows) :
    countOf rows problem =
      if problem ∈ rowsOf store.problems ∧
        query.admits (entriesOf store.componentLinks) problem = true
      then exactSum ((store.countedFor query problem).map Bucket.count) else 0 := by
  unfold countOf
  cases found : rows.find? fun row => row.problem = problem with
  | some row =>
    have same : row.problem = problem := by simpa using List.find?_some found
    obtain ⟨owner, present, listed, rfl⟩ :=
      (mem_rank_iff ranked).1 (List.mem_of_find?_eq_some found)
    obtain rfl : owner = problem := same
    rw [if_pos ⟨present, (lists_iff_exists.1 listed).2⟩]
    rfl
  | none =>
    split
    · rename_i both
      -- the problem is missing because no bucket counts for it
      have uncounted : store.countedFor query problem = [] := by
        refine List.eq_nil_iff_forall_not_mem.2 fun bucket counted => ?_
        obtain ⟨row, member, same⟩ :=
          (exists_row_iff ranked).2 ⟨both.1, lists_iff_exists.2 ⟨⟨bucket, counted⟩, both.2⟩⟩
        exact List.find?_eq_none.1 found row member (decide_eq_true same)
      rw [uncounted]
      rfl
    · rfl

/-- A part of a query admits the same problems. -/
lemma admits_of_isPart (isPart : part.IsPart whole test) : part.admits = whole.admits := by
  funext links problem
  unfold RankQuery.admits
  rw [isPart.components]

/-- It counts for a problem what passes the test. -/
lemma countedFor_of_isPart (isPart : part.IsPart whole test) :
    store.countedFor part problem
      = (store.countedFor whole problem).filter fun bucket => test ⟨bucket, problem⟩ := by
  unfold countedFor
  rw [isPart.granularity, List.filter_filter]
  refine List.filter_congr fun bucket _ => ?_
  unfold countsFor
  rw [isPart.counts, ← Bool.and_assoc, Bool.and_comm]

/-- The ranking of a query is the sum of the rankings of the part that passes a test and the part
that fails it. -/
lemma addsUp_of_isPart (passing : first.IsPart whole test)
    (failing : second.IsPart whole fun share => !test share)
    {rows firstRows secondRows : List RankedProblem} (ranked : store.rank whole = .ok rows)
    (firstRanked : store.rank first = .ok firstRows)
    (secondRanked : store.rank second = .ok secondRows) : AddsUp rows firstRows secondRows := by
  intro problem
  constructor
  · rw [exists_row_iff ranked, exists_row_iff firstRanked, exists_row_iff secondRanked]
    simp only [lists_iff_exists, admits_of_isPart passing, admits_of_isPart failing,
      countedFor_of_isPart passing, countedFor_of_isPart failing, List.mem_filter]
    constructor
    · rintro ⟨present, ⟨bucket, counted⟩, admitted⟩
      cases pass : test ⟨bucket, problem⟩ with
      | true => exact .inl ⟨present, ⟨bucket, counted, pass⟩, admitted⟩
      | false =>
        exact .inr ⟨present, ⟨bucket, counted, by rw [pass, Bool.not_false]⟩, admitted⟩
    · rintro (⟨present, ⟨bucket, counted, -⟩, admitted⟩ | ⟨present, ⟨bucket, counted, -⟩, admitted⟩)
      · exact ⟨present, ⟨bucket, counted⟩, admitted⟩
      · exact ⟨present, ⟨bucket, counted⟩, admitted⟩
  · rw [countOf_rank ranked, countOf_rank firstRanked, countOf_rank secondRanked,
      admits_of_isPart passing, admits_of_isPart failing, countedFor_of_isPart passing,
      countedFor_of_isPart failing]
    split
    · exact (exactSum_filter_add _ _).symm
    · rfl

/-! ### Two ways to split -/

section
variable {granularity : Granularity} {components : Option (List Int)} {clauses : List Clause}

/-- A query for those of its releases that pass a test is a part. -/
lemma isPart_of_releases {ids own : List Int} (test : Int → Bool)
    (same : ∀ id, id ∈ own ↔ id ∈ ids ∧ test id = true) :
    RankQuery.IsPart ⟨granularity, .only own, components, clauses⟩
      ⟨granularity, .only ids, components, clauses⟩ fun share => test share.bucket.release where
  granularity := rfl
  components := rfl
  counts share := by
    unfold RankQuery.counts
    rw [Bool.eq_iff_iff]
    simp only [ReleaseSelection.has, Bool.and_eq_true, decide_eq_true_iff, same]
    exact and_right_comm

/-- A query with one more clause, in any order of its clauses, is a part. -/
lemma isPart_of_clause {releases : ReleaseSelection} {clause : Clause} {clauses' : List Clause}
    (added : clauses'.Perm (clause :: clauses)) :
    RankQuery.IsPart ⟨granularity, releases, components, clauses'⟩
      ⟨granularity, releases, components, clauses⟩ clause.holds where
  granularity := rfl
  components := rfl
  counts share := by
    unfold RankQuery.counts
    rw [added.all_eq, List.all_cons, Bool.and_assoc, Bool.and_comm (clause.holds share)]

end

/-- Rankings add up over a split of the buckets. When the releases of a ranking are those of two
lists that share none, and when a clause is added once as it is and once with the complementary
comparison, wherever it stands among the clauses, then the problems of the whole ranking are those
of the two parts, and each of their counts is the sum of the counts in the parts. This holds
whenever the three rankings succeed, for any column, comparison and operand. -/
theorem rankings_add_up (store : Store) (granularity : Granularity)
    (components : Option (List Int)) (clauses : List Clause) :
    (∀ ids ids₁ ids₂ : List Int, (∀ id ∈ ids₁, id ∉ ids₂) →
      (∀ id, id ∈ ids ↔ id ∈ ids₁ ∨ id ∈ ids₂) →
      ∀ rows rows₁ rows₂,
        store.rank ⟨granularity, .only ids, components, clauses⟩ = .ok rows →
        store.rank ⟨granularity, .only ids₁, components, clauses⟩ = .ok rows₁ →
        store.rank ⟨granularity, .only ids₂, components, clauses⟩ = .ok rows₂ →
        AddsUp rows rows₁ rows₂) ∧
    ∀ releases column comparison operand clauses₁ clauses₂,
      clauses₁.Perm (.compare column comparison operand :: clauses) →
      clauses₂.Perm (.compare column comparison.complement operand :: clauses) →
      ∀ rows rows₁ rows₂,
        store.rank ⟨granularity, releases, components, clauses⟩ = .ok rows →
        store.rank ⟨granularity, releases, components, clauses₁⟩ = .ok rows₁ →
        store.rank ⟨granularity, releases, components, clauses₂⟩ = .ok rows₂ →
        AddsUp rows rows₁ rows₂ := by
  constructor
  · intro ids ids₁ ids₂ apart every rows rows₁ rows₂ ranked ranked₁ ranked₂
    have own (id : Int) : id ∈ ids₁ ↔ id ∈ ids ∧ decide (id ∈ ids₁) = true := by
      rw [every, decide_eq_true_iff]
      exact ⟨fun first => ⟨.inl first, first⟩, And.right⟩
    have other (id : Int) : id ∈ ids₂ ↔ id ∈ ids ∧ (!decide (id ∈ ids₁)) = true := by
      rw [every, Bool.not_eq_true', decide_eq_false_iff_not]
      constructor
      · intro second
        exact ⟨.inr second, fun first => apart id first second⟩
      · rintro ⟨first | second, missing⟩
        · exact absurd first missing
        · exact second
    exact addsUp_of_isPart (isPart_of_releases (fun id => decide (id ∈ ids₁)) own)
      (isPart_of_releases (fun id => !decide (id ∈ ids₁)) other) ranked ranked₁ ranked₂
  · intro releases column comparison operand clauses₁ clauses₂ with₁ with₂ rows rows₁ rows₂ ranked
      ranked₁ ranked₂
    have failing : RankQuery.IsPart ⟨granularity, releases, components, clauses₂⟩
        ⟨granularity, releases, components, clauses⟩
        fun share => !(Clause.compare column comparison operand).holds share := by
      simpa only [Clause.holds_complement] using isPart_of_clause with₂
    exact addsUp_of_isPart (isPart_of_clause with₁) failing ranked ranked₁ ranked₂

/-- Commands that record occurrences of two problems: of the first one in two releases, before New
Year in one and since in the other; of the second one in the first release, since New Year. -/
def twoReleases : List Command :=
  oneReport newYearsEve ++ [.insertRelease 1 "10", .insertProblem newYearsEve newYearsEve,
    .insertReport (some 2) 1 newYearsEve, .record 1 1 newYearsEve 3, .record 1 2 newYearsDay 4,
    .record 2 1 newYearsDay 5]

/-- The problem with occurrences before New Year and since. -/
def spreadProblem : Problem := ⟨1, newYearsEve, newYearsDay⟩

/-- The problem with occurrences since New Year only. -/
def recentProblem : Problem := ⟨2, newYearsEve, newYearsDay⟩

/-- The ranking of both problems is the sum of those of the two releases, and also of those of what
occurred before New Year and since. -/
theorem rankings_of_twoReleases :
    (migrated.run twoReleases).rank ⟨.daily, .only [1, 2], none, []⟩
        = .ok (sortByCount [.ofCount spreadProblem 7, .ofCount recentProblem 5]) ∧
      AddsUp (sortByCount [.ofCount spreadProblem 7, .ofCount recentProblem 5])
        (sortByCount [.ofCount spreadProblem 3, .ofCount recentProblem 5])
        (sortByCount [.ofCount spreadProblem 4]) ∧
      AddsUp (sortByCount [.ofCount spreadProblem 7, .ofCount recentProblem 5])
        (sortByCount [.ofCount spreadProblem 3])
        (sortByCount [.ofCount spreadProblem 4, .ofCount recentProblem 5]) := by
  have whole : (migrated.run twoReleases).rank ⟨.daily, .only [1, 2], none, []⟩
      = .ok (sortByCount [.ofCount spreadProblem 7, .ofCount recentProblem 5]) := rfl
  have first : (migrated.run twoReleases).rank ⟨.daily, .only [1], none, []⟩
      = .ok (sortByCount [.ofCount spreadProblem 3, .ofCount recentProblem 5]) := rfl
  have second : (migrated.run twoReleases).rank ⟨.daily, .only [2], none, []⟩
      = .ok (sortByCount [.ofCount spreadProblem 4]) := rfl
  have before : (migrated.run twoReleases).rank ⟨.daily, .only [1, 2], none,
      [.compare .bucketStart .lt (.date newYearsDay)]⟩
      = .ok (sortByCount [.ofCount spreadProblem 3]) := rfl
  have since : (migrated.run twoReleases).rank ⟨.daily, .only [1, 2], none,
      [.compare .bucketStart .ge (.date newYearsDay)]⟩
      = .ok (sortByCount [.ofCount spreadProblem 4, .ofCount recentProblem 5]) := rfl
  obtain ⟨releases, dates⟩ := rankings_add_up (migrated.run twoReleases) .daily none []
  refine ⟨whole, ?_, ?_⟩
  · exact releases [1, 2] [1] [2] (by decide) (by simp) _ _ _ whole first second
  · exact dates (.only [1, 2]) .bucketStart .lt (.date newYearsDay) _ _ (.refl _) (.refl _) _ _ _
      whole before since

end Store

end CrashTriage
