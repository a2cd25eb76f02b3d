import CrashTriage.Proofs.HotWindows
import CrashTriage.Proofs.LongTermMeaning

/-!
# Rankings of components

A ranking with a list of components is the ranking without one, less the problems that are linked to
none of them. The components act on the listed problems only, after their buckets have been summed:
they change no count, and no total that the ranking without components has read can fail with them.
Rows that are left out before a sort are missing from the same places as rows that are left out
after it, so the order by average of the long-term ranking keeps to this too.
-/

namespace CrashTriage

/-! ### Sorting and leaving out -/

section
variable {α : Type}

/-- A list is cut in one way only into members that fail a test and, after them, members that pass
it. -/
lemma append_inj_of_test {test : α → Bool} {front front' back back' : List α}
    (fail : ∀ a ∈ front, test a = false) (pass : ∀ a ∈ back, test a = true)
    (fail' : ∀ a ∈ front', test a = false) (pass' : ∀ a ∈ back', test a = true)
    (same : front ++ back = front' ++ back') : front = front' ∧ back = back' := by
  have first {front back : List α} (fail : ∀ a ∈ front, test a = false)
      (pass : ∀ a ∈ back, test a = true) : (front ++ back).filter (!test ·) = front := by
    have kept : front.filter (!test ·) = front :=
      List.filter_eq_self.2 fun a member => by rw [fail a member, Bool.not_false]
    have dropped : back.filter (!test ·) = [] :=
      List.filter_eq_nil_iff.2 fun a member => by simp [pass a member]
    rw [List.filter_append, kept, dropped, List.append_nil]
  have fronts : front = front' := by
    rw [← first fail pass, ← first fail' pass', same]
  rw [fronts] at same
  exact ⟨fronts, List.append_cancel_left same⟩

variable (le : α → α → Bool) (trans : ∀ a b c, le a b = true → le b c = true → le a c = true)
  (total : ∀ a b, (le a b || le b a) = true)
include trans total

/-- Where a row stands among the others once they are sorted. -/
lemma exists_place (row : α) (rest : List α) : ∃ front back,
    (row :: rest).mergeSort le = front ++ row :: back ∧ rest.mergeSort le = front ++ back ∧
      (∀ b ∈ front, le row b = false) ∧ ∀ b ∈ back, le row b = true := by
  obtain ⟨front, back, sorted, others, before⟩ := List.mergeSort_cons trans total row rest
  have ordered := List.pairwise_mergeSort trans total (row :: rest)
  rw [sorted] at ordered
  refine ⟨front, back, sorted, others, fun b member => by simpa using before b member, ?_⟩
  exact (List.pairwise_cons.1 (List.pairwise_append.1 ordered).2.1).1

/-- To leave rows out and to sort what remains come to the same in either order. -/
lemma filter_mergeSort (keep : α → Bool) (rows : List α) :
    (rows.mergeSort le).filter keep = (rows.filter keep).mergeSort le := by
  induction rows with
  | nil => rw [List.mergeSort_nil, List.filter_nil, List.mergeSort_nil]
  | cons row rest ih =>
    obtain ⟨front, back, sorted, others, before, after⟩ := exists_place le trans total row rest
    rw [others, List.filter_append] at ih
    by_cases kept : keep row = true
    · obtain ⟨front', back', sorted', others', before', after'⟩ :=
        exists_place le trans total row (rest.filter keep)
      rw [others'] at ih
      obtain ⟨fronts, backs⟩ := append_inj_of_test
        (fun b member => before b (List.mem_filter.1 member).1)
        (fun b member => after b (List.mem_filter.1 member).1) before' after' ih
      rw [sorted, List.filter_append, List.filter_cons_of_pos kept, List.filter_cons_of_pos kept,
        sorted', fronts, backs]
    · rw [sorted, List.filter_append, List.filter_cons_of_neg kept, List.filter_cons_of_neg kept,
        ih]

end

/-- Rows left out by their problems are left out of the order by count. -/
lemma filter_sortByCount (keep : Problem → Bool) (rows : List RankedProblem) :
    (sortByCount rows).filter (fun row => keep row.problem)
      = sortByCount (rows.filter fun row => keep row.problem) :=
  filter_mergeSort RankedProblem.countLE (fun _ _ _ => RankedProblem.countLE_trans)
    RankedProblem.countLE_total _ rows

/-- Rows left out by their problems are left out of the order by average. -/
lemma filter_prioritize (last : Date) (keep : Problem → Bool) (rows : List RankedProblem) :
    (prioritize last rows).filter (fun row => keep row.problem)
      = prioritize last (rows.filter fun row => keep row.problem) := by
  unfold prioritize
  rw [filter_mergeSort RankedProblem.rankLE (fun _ _ _ => RankedProblem.rankLE_trans)
    RankedProblem.rankLE_total, filterMap_average?, filterMap_average?]
  unfold averages
  rw [List.filter_map, List.filter_filter, List.filter_filter]
  congr 2
  apply List.filter_congr
  intro row _
  exact Bool.and_comm _ _

namespace Store

variable {store : Store}

/-! ### Rankings of some problems -/

/-- Two rankings show the same rows, in the same order, for the problems that pass a test, if both
stores have the same of these and both queries list them and count for them alike. -/
lemma filter_rank_congr {after : Store} {query part : RankQuery} (keep : Problem → Bool)
    (problems : (rowsOf after.problems).filter keep = (rowsOf store.problems).filter keep)
    (counted : ∀ problem, keep problem = true →
      after.countedFor part problem = store.countedFor query problem)
    (listed : ∀ problem, keep problem = true →
      after.lists part problem = store.lists query problem)
    {rows shown : List RankedProblem} (ranked : store.rank query = .ok rows)
    (still : after.rank part = .ok shown) :
    (shown.filter fun row => keep row.problem) = rows.filter fun row => keep row.problem := by
  have same : ((rowsOf after.problems).filter (after.lists part)).filter keep
      = ((rowsOf store.problems).filter (store.lists query)).filter keep := by
    rw [List.filter_comm, problems, List.filter_comm keep]
    exact List.filter_congr fun problem member => listed problem (List.mem_filter.1 member).2
  rw [(rank_eq_of_ok still).1, (rank_eq_of_ok ranked).1, filter_sortByCount, filter_sortByCount,
    List.filter_map, List.filter_map]
  refine congrArg sortByCount (Eq.trans ?_ (congrArg _ same))
  refine List.map_congr_left fun problem member => ?_
  rw [counted problem (List.mem_filter.1 member).2]

/-- A query without components is restricted by one that lists, of the problems that it lists, those
that pass a test, and that counts the same buckets for a problem, or none if it fails the test. When
the first ranking succeeds, so does the other, with the rows of the problems that pass. -/
lemma rank_restricted {query part : RankQuery} (keep : Problem → Bool)
    (free : query.components = none) (empty : query.isEmpty = true → part.isEmpty = true)
    (holds : query.isEmpty = false → store.Holds query → store.Holds part)
    (counted : ∀ problem, store.countedFor part problem = store.countedFor query problem ∨
      (keep problem = false ∧ store.countedFor part problem = []))
    (listed : ∀ problem, store.lists part problem = (store.lists query problem && keep problem))
    {rows : List RankedProblem} (ranked : store.rank query = .ok rows) :
    store.rank part = .ok (rows.filter fun row => keep row.problem) := by
  obtain ⟨shown, succeeds⟩ : ∃ shown, store.rank part = .ok shown := by
    cases nothing : query.isEmpty with
    | true => exact ⟨[], rank_of_isEmpty store (empty nothing)⟩
    | false =>
      refine exists_rank_of_exact (holds nothing (holds_of_rank nothing ranked)) ?_
      intro problem member
      rcases counted problem with same | ⟨-, none⟩
      · -- without components every problem is admitted
        rw [same]
        exact total_of_admitted ranked member (by rw [RankQuery.admits, free, Option.all_none])
      · rw [none]
        exact ⟨0, Total.ofTallies_nil⟩
  have all : (shown.filter fun row => keep row.problem) = shown := by
    refine List.filter_eq_self.2 fun row member => ?_
    have lists := ((exists_row_iff succeeds).1 ⟨row, member, rfl⟩).2
    rw [listed, Bool.and_eq_true] at lists
    exact lists.2
  have same (problem : Problem) (kept : keep problem = true) :
      store.countedFor part problem = store.countedFor query problem :=
    (counted problem).resolve_right fun other => Bool.false_ne_true (other.1.symm.trans kept)
  have alike (problem : Problem) (kept : keep problem = true) :
      store.lists part problem = store.lists query problem := by
    rw [listed, kept, Bool.and_true]
  rw [succeeds, ← all, filter_rank_congr keep rfl same alike ranked succeeds]

/-! ### The problems of components -/

/-- The problems of components are those with a link to one of them, as long as the components can
be bound. -/
lemma exists_problemsOfComponents (hasLinks : store.has .componentLinks = true) (ids : List Int) :
    ∃ linked, (store.problemsOfComponents ids
        = if ids.length ≤ maxBound then .ok linked else .error .tooManyValues) ∧
      ∀ id, id ∈ linked ↔
        ∃ link ∈ entriesOf store.componentLinks, link.problem = id ∧ link.component ∈ ids := by
  obtain ⟨links, found⟩ := Option.isSome_iff_exists.1 hasLinks
  unfold problemsOfComponents bindable
  by_cases none : ids.isEmpty = true
  · rw [if_pos none]
    rw [List.isEmpty_iff] at none
    refine ⟨[], by rw [none]; rfl, fun id => ?_⟩
    simp [none]
  · rw [if_neg none, found]
    refine ⟨_, by split <;> rfl, fun id => ?_⟩
    rw [entriesOf_some, List.mem_mergeSort, List.mem_eraseDups, List.mem_map]
    constructor
    · rintro ⟨link, inside, same⟩
      obtain ⟨member, listed⟩ := List.mem_filter.1 inside
      exact ⟨link, member, same, of_decide_eq_true listed⟩
    · rintro ⟨link, member, same, listed⟩
      exact ⟨link, List.mem_filter.2 ⟨member, decide_eq_true listed⟩, same⟩

section
variable {granularity : Granularity} {releases : ReleaseSelection} {clauses : List Clause}
  {ids linked : List Int}

/-- With components a query lists, of the problems that it lists without them, the linked ones. -/
lemma lists_components (membership : ∀ id, id ∈ linked ↔
      ∃ link ∈ entriesOf store.componentLinks, link.problem = id ∧ link.component ∈ ids)
    (problem : Problem) :
    store.lists ⟨granularity, releases, some ids, clauses⟩ problem
      = (store.lists ⟨granularity, releases, none, clauses⟩ problem
        && decide (problem.id ∈ linked)) := by
  rw [Bool.eq_iff_iff, Bool.and_eq_true, decide_eq_true_iff, lists_iff, lists_iff, membership]
  change (∃ bucket ∈ store.buckets granularity, _) ∧ _ ↔
    ((∃ bucket ∈ store.buckets granularity, _) ∧ _) ∧ _
  constructor
  · rintro ⟨counted, admitted⟩
    exact ⟨⟨counted, nofun⟩, admitted ids rfl⟩
  · rintro ⟨⟨counted, -⟩, admitted⟩
    refine ⟨counted, fun components shape => ?_⟩
    cases shape
    exact admitted

/-- A ranking that succeeds without components succeeds with them as long as they can be bound, and
shows the rows of the linked problems. -/
lemma rank_components (hasLinks : store.has .componentLinks = true)
    (membership : ∀ id, id ∈ linked ↔
      ∃ link ∈ entriesOf store.componentLinks, link.problem = id ∧ link.component ∈ ids)
    {rows : List RankedProblem}
    (ranked : store.rank ⟨granularity, releases, none, clauses⟩ = .ok rows) :
    store.rank ⟨granularity, releases, some ids, clauses⟩
      = if releases.BindableWith (boundTo clauses + ids.length)
        then .ok (rows.filter fun row => row.problem.id ∈ linked) else .error .tooManyValues := by
  have empty := RankQuery.isEmpty_free granularity releases clauses
  have bound := RankQuery.bound_eq ⟨granularity, releases, some ids, clauses⟩
  split
  · rename_i bindable
    refine rank_restricted (fun problem => problem.id ∈ linked) rfl ?_ ?_ ?_
      (lists_components membership) ranked
    · intro nothing
      unfold RankQuery.isEmpty
      rw [← empty, nothing, Bool.true_or]
    · intro some holds
      refine ⟨⟨?_, holds.fits.nesting⟩, holds.buckets, holds.reports, holds.problems,
        fun _ => hasLinks⟩
      rw [bound]
      exact bindable (empty.symm.trans some)
    · intro problem
      exact .inl rfl
  · rename_i many
    obtain ⟨some, many⟩ := Classical.not_imp.1 many
    have fits := (holds_of_rank (empty.trans some) ranked).fits
    have listed : ids ≠ [] := by
      rintro rfl
      refine many ?_
      have few := fits.bound
      rwa [RankQuery.bound_eq] at few
    refine rank_of_unbound store ?_ fits.nesting ?_
    · unfold RankQuery.isEmpty
      rw [some, Option.any_some, List.isEmpty_eq_false_iff.2 listed, Bool.or_false]
    · rw [bound]
      exact Nat.not_le.1 many

end

/-! ### Every ranking of components -/

/-- A ranking with a list of components is the ranking without one, restricted to the problems of
these components, whatever the list contains: whenever the ranking without components succeeds, so
does the one with them as long as they can be bound along with its other values, with the same rows
in the same order for the problems that remain. This holds of every query, of the hot ranking and of
the long-term ranking. -/
theorem rankings_of_components (store : Store) (hasLinks : store.has .componentLinks = true)
    (ids : List Int) :
    ∃ linked, (store.problemsOfComponents ids
        = if ids.length ≤ maxBound then .ok linked else .error .tooManyValues) ∧
      (∀ id, id ∈ linked ↔
        ∃ link ∈ entriesOf store.componentLinks, link.problem = id ∧ link.component ∈ ids) ∧
      (∀ granularity releases clauses rows,
        store.rank ⟨granularity, releases, none, clauses⟩ = .ok rows →
        store.rank ⟨granularity, releases, some ids, clauses⟩
          = if releases.BindableWith (boundTo clauses + ids.length)
            then .ok (rows.filter fun row => row.problem.id ∈ linked)
            else .error .tooManyValues) ∧
      (∀ token releases cutoff today rows,
        store.hotProblems token releases none cutoff today = .ok rows →
        store.hotProblems token releases (some ids) cutoff today
          = if releases.BindableWith (1 + ids.length)
            then .ok (rows.filter fun row => row.problem.id ∈ linked)
            else .error .tooManyValues) ∧
      ∀ token releases today rows,
        store.longTermProblems token releases none today = .ok rows →
        store.longTermProblems token releases (some ids) today
          = if releases.BindableWith (2 + ids.length)
            then .ok (rows.filter fun row => row.problem.id ∈ linked)
            else .error .tooManyValues := by
  obtain ⟨linked, found, membership⟩ := exists_problemsOfComponents hasLinks ids
  refine ⟨linked, found, membership, ?_, ?_, ?_⟩
  · intro granularity releases clauses rows ranked
    exact rank_components hasLinks membership ranked
  · intro token releases cutoff today rows succeeds
    obtain ⟨standard, window, ranked⟩ := hotProblems_eq_ok_iff.1 succeeds
    unfold hotProblems
    rw [window]
    exact rank_components hasLinks membership ranked
  · intro token releases today rows succeeds
    obtain ⟨last, previous, -⟩ := bind_eq_ok_iff.1 succeeds
    rw [inRange_eq_ok_iff] at previous
    obtain ⟨shown, ranked, rfl⟩ := (longTermProblems_eq_ok_iff previous).1 succeeds
    unfold longTermProblems longTermQuery
    rw [previous, inRange, ok_bind, rank_components hasLinks membership ranked,
      filter_prioritize last fun problem => problem.id ∈ linked]
    change (if releases.BindableWith (2 + ids.length) then _ else _) >>= _ = _
    split <;> rfl

/-- Of more components than can be bound neither the problems nor a ranking can be had. -/
lemma fail_of_many_components (hasLinks : store.has .componentLinks = true)
    {granularity : Granularity} {rows : List RankedProblem}
    (ranked : store.rank ⟨granularity, .all, none, []⟩ = .ok rows) {ids : List Int}
    (many : maxBound < ids.length) :
    store.problemsOfComponents ids = .error .tooManyValues ∧
      store.rank ⟨granularity, .all, some ids, []⟩ = .error .tooManyValues := by
  obtain ⟨linked, found, membership⟩ := exists_problemsOfComponents hasLinks ids
  have beyond : ¬ ReleaseSelection.all.BindableWith (boundTo [] + ids.length) := by
    intro bindable
    have few : 0 + (0 + ids.length) ≤ maxBound := bindable rfl
    omega
  rw [found, rank_components hasLinks membership ranked, if_neg (Nat.not_le.2 many), if_neg beyond]
  exact ⟨rfl, rfl⟩

/-- A ranking that succeeds can fail with components: one that is listed again and again makes more
values than can be bound. -/
theorem components_reach_limit :
    migrated.has .componentLinks = true ∧ migrated.rank ⟨.daily, .all, none, []⟩ = .ok [] ∧
      migrated.problemsOfComponents (List.replicate 32767 1) = .error .tooManyValues ∧
      migrated.rank ⟨.daily, .all, some (List.replicate 32767 1), []⟩ = .error .tooManyValues := by
  have ranked : migrated.rank ⟨.daily, .all, none, []⟩ = .ok (sortByCount []) := rfl
  have many : maxBound < (List.replicate 32767 (1 : Int)).length := by
    rw [List.length_replicate]
    decide
  refine ⟨rfl, ?_, fail_of_many_components rfl ranked many⟩
  rw [ranked, sortByCount, List.mergeSort_nil]

/-- Commands that record occurrences of two problems, the first of which is linked to a component.
-/
def oneLinked : List Command :=
  oneReport newYearsEve ++ [.insertProblem newYearsEve newYearsEve,
    .insertReport (some 2) 1 newYearsEve, .linkComponent 1 1 0, .record 1 1 newYearsEve 3,
    .record 2 1 newYearsDay 5]

/-- Of two problems in a ranking, the one that is linked remains when its component is listed, also
when it is listed twice and next to one that does not exist. -/
theorem rankings_of_oneLinked :
    (migrated.run oneLinked).has .componentLinks = true ∧
      (migrated.run oneLinked).rank ⟨.weekly, .all, none, []⟩
        = .ok (sortByCount [.ofCount ⟨1, newYearsEve, newYearsEve⟩ 3,
            .ofCount ⟨2, newYearsEve, newYearsDay⟩ 5]) ∧
      (migrated.run oneLinked).rank ⟨.weekly, .all, some [1, 1, 7], []⟩
        = .ok (sortByCount [.ofCount ⟨1, newYearsEve, newYearsEve⟩ 3]) := by
  have hasLinks : (migrated.run oneLinked).has .componentLinks = true := rfl
  have ranked : (migrated.run oneLinked).rank ⟨.weekly, .all, none, []⟩
      = .ok (sortByCount [.ofCount ⟨1, newYearsEve, newYearsEve⟩ 3,
          .ofCount ⟨2, newYearsEve, newYearsDay⟩ 5]) := rfl
  have problems : (migrated.run oneLinked).problemsOfComponents [1, 1, 7]
      = .ok ([1].mergeSort (· ≤ ·)) := rfl
  obtain ⟨linked, found, -, restricts, -, -⟩ :=
    rankings_of_components (migrated.run oneLinked) hasLinks [1, 1, 7]
  rw [problems, List.mergeSort_singleton, if_pos (by decide)] at found
  cases found
  refine ⟨hasLinks, ranked, ?_⟩
  rw [restricts .weekly .all [] _ ranked, if_pos (by decide),
    filter_sortByCount fun problem => problem.id ∈ [1]]
  rfl

end Store

end CrashTriage
