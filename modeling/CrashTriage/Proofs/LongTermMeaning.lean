import CrashTriage.Proofs.DatedBuckets
import CrashTriage.Proofs.ObservedMonths
import CrashTriage.Ranking.LongTerm
import Mathlib.Algebra.Order.BigOperators.Group.List
import Mathlib.Algebra.Order.Group.Int
import Mathlib.Data.List.Basic

/-!
# What a long-term ranking shows

A long-term ranking lists the problems that are active around the last month of observation and have
been observed for a month at least, each with the occurrences since its first one and with their
average over the months observed. Main statements: the conditions of the query let only problems
with an observed month through, so that none is dropped afterwards; and at the granularity of months
the occurrences that are averaged are those of the observed months together with those of the months
after them, which no month in the average stands for.
-/

namespace CrashTriage

/-! ### Rows ranked by their average -/

/-- A row ranked by its average over the months observed. -/
def RankedProblem.averaged (last : Date) (row : RankedProblem) : RankedProblem :=
  { row with rank := Float.ofInt row.count / Float.ofInt (last.observedMonths row.problem.first) }

/-- The rows with an observed month, each ranked by its average. -/
def averages (last : Date) (rows : List RankedProblem) : List RankedProblem :=
  (rows.filter fun row => 1 ≤ last.observedMonths row.problem.first).map
    (RankedProblem.averaged last)

/-- An average is taken of the rows with an observed month. -/
lemma filterMap_average? (last : Date) (rows : List RankedProblem) :
    rows.filterMap (RankedProblem.average? last) = averages last rows := by
  apply filterMap_eq_map_filter
  intro row _
  unfold RankedProblem.average?
  by_cases observed : 1 ≤ last.observedMonths row.problem.first
  · rw [if_neg (by omega), if_pos (decide_eq_true observed)]
    rfl
  · rw [if_pos (by omega), if_neg (by simpa using observed)]

/-- To prioritize is to put these in order. -/
lemma prioritize_perm_averages (last : Date) (rows : List RankedProblem) :
    (prioritize last rows).Perm (averages last rows) := by
  rw [← filterMap_average?]
  exact List.mergeSort_perm _ _

section
variable {last : Date} {rows : List RankedProblem}

/-- When every row has an observed month, to prioritize drops none of them. -/
lemma prioritize_perm (observed : ∀ row ∈ rows, 1 ≤ last.observedMonths row.problem.first) :
    (prioritize last rows).Perm (rows.map (RankedProblem.averaged last)) := by
  have kept : averages last rows = rows.map (RankedProblem.averaged last) := by
    unfold averages
    rw [List.filter_eq_self.2 fun row member => decide_eq_true (observed row member)]
  rw [← kept]
  exact prioritize_perm_averages last rows

/-- The problems of the rows are then those before. -/
lemma problems_prioritize_perm
    (observed : ∀ row ∈ rows, 1 ≤ last.observedMonths row.problem.first) :
    ((prioritize last rows).map RankedProblem.problem).Perm (rows.map RankedProblem.problem) := by
  have shown := (prioritize_perm observed).map RankedProblem.problem
  rw [List.map_map] at shown
  exact shown

/-- A single row with an observed month is averaged. -/
lemma prioritize_singleton {row : RankedProblem}
    (observed : 1 ≤ last.observedMonths row.problem.first) :
    prioritize last (sortByCount [row]) = [row.averaged last] := by
  have alone : sortByCount [row] = [row] := List.perm_singleton.1 (sortByCount_perm [row])
  have every (other : RankedProblem) (member : other ∈ [row]) :
      1 ≤ last.observedMonths other.problem.first := by
    rw [List.mem_singleton.1 member]
    exact observed
  rw [alone]
  exact List.perm_singleton.1 (prioritize_perm every)

/-- Rows of different problems stay so when they are prioritized. -/
lemma nodup_prioritize (last : Date) (distinct : (rows.map fun row => row.problem.id).Nodup) :
    ((prioritize last rows).map fun row => row.problem.id).Nodup := by
  rw [((prioritize_perm_averages last rows).map _).nodup_iff]
  unfold averages
  rw [List.map_map]
  exact distinct.sublist (List.filter_sublist.map fun row : RankedProblem => row.problem.id)

/-- Rows of different problems are in strict order once they are prioritized: the greatest rank
first, equal ranks by count, the greatest first, and then by ascending id. -/
lemma strict_prioritize (last : Date) (distinct : (rows.map fun row => row.problem.id).Nodup) :
    (prioritize last rows).Pairwise fun a b =>
      Decimal.place b.rank < Decimal.place a.rank ∨ (Decimal.place a.rank = Decimal.place b.rank ∧
        (b.count < a.count ∨ (a.count = b.count ∧ a.problem.id < b.problem.id))) := by
  have ids := nodup_prioritize last distinct
  apply ((pairwise_prioritize last rows).and (List.pairwise_map.1 ids)).imp
  intro a b both
  have order := RankedProblem.rankLE_iff.1 both.1
  rw [RankedProblem.countLE_iff] at order
  have differ : a.problem.id ≠ b.problem.id := both.2
  omega

end

namespace Store

variable {store : Store} {granularity : Granularity} {token : String}
  {releases : ReleaseSelection} {components : Option (List Int)} {today last : Date}
  {problem : Problem} {bucket : Bucket}

/-! ### The query behind the ranking -/

/-- A long-term ranking prioritizes what the query for its last month finds. -/
lemma longTermProblems_eq_ok_iff (previous : today.firstOfPreviousMonth? = some last)
    {rows : List RankedProblem} :
    store.longTermProblems token releases components today = .ok rows ↔
      ∃ found, store.rank (longTermQuery (.ofToken token) releases components last) = .ok found ∧
        prioritize last found = rows := by
  unfold longTermProblems
  rw [previous, inRange_eq_ok_iff.2 rfl]
  change (store.rank _ >>= fun found => pure (prioritize last found)) = .ok rows ↔ _
  simp only [bind_eq_ok_iff, pure_eq_ok_iff]

/-- A date lies between two unsigned dates as the written forms have it, even when it is itself
written with a sign. -/
lemma between_unsigned_iff {first final : Date} (hf : first.IsUnsigned) (hl : final.IsUnsigned)
    (date : Date) :
    (!date.isWrittenBefore first && !final.isWrittenBefore date)
      = decide (first ≤ date ∧ date ≤ final) := by
  by_cases late : date.year ≤ 9999
  · rw [not_isWrittenBefore_unsigned late hf, not_unsigned_isWrittenBefore hl late,
      Bool.decide_and]
  · have signed : ¬ date.IsUnsigned := fun unsigned => late unsigned.2
    have outside : ¬ (first ≤ date ∧ date ≤ final) := by
      intro between
      have year := Date.year_le_of_le between.2
      have bound := hl.2
      omega
    rw [Date.isWrittenBefore_of_signed signed hf, decide_eq_false outside]
    rfl

/-- Whether a bucket of the selected releases belongs to a problem and starts on its first
occurrence or later. -/
def isSinceFirst (store : Store) (releases : ReleaseSelection) (problem : Problem)
    (bucket : Bucket) : Bool :=
  (rowsOf store.reports).any (fun report =>
      report.id = bucket.report && report.problem = some problem.id)
    && (releases.has bucket.release && problem.first ≤ bucket.start)

/-- The buckets of a problem in the selected releases from its first occurrence on. -/
def bucketsSinceFirst (store : Store) (granularity : Granularity) (releases : ReleaseSelection)
    (problem : Problem) : List Bucket :=
  (store.buckets granularity).filter (store.isSinceFirst releases problem)

/-- The query counts the buckets since the first occurrence of the problems whose first and last
occurrence enclose the first day of the last month. -/
lemma countsFor_longTerm (dated : store.Dated granularity)
    (present : problem ∈ rowsOf store.problems) (member : bucket ∈ store.buckets granularity) :
    store.countsFor (longTermQuery granularity releases components last) problem bucket =
      (decide (problem.first ≤ last ∧ last ≤ problem.last)
        && store.isSinceFirst releases problem bucket) := by
  obtain ⟨first, final⟩ := dated.problem problem present
  have started : Clause.holds ⟨bucket, problem⟩ (.compare .firstOccurrence .le (.date last))
      = !last.isWrittenBefore problem.first := meets_le_text problem.first last
  have since : Clause.holds ⟨bucket, problem⟩
      (.compare .firstOccurrence .le (.column .bucketStart))
      = !bucket.start.isWrittenBefore problem.first := meets_le_text problem.first bucket.start
  have active : Clause.holds ⟨bucket, problem⟩ (.compare .lastOccurrence .ge (.date last))
      = !problem.last.isWrittenBefore last := meets_ge_text problem.last last
  unfold countsFor RankQuery.counts longTermQuery isSinceFirst
  rw [List.all_cons, List.all_cons, List.all_cons, List.all_nil, Bool.and_true, started, since,
    active, not_isWrittenBefore_unsigned (dated.bucket bucket member) first,
    ← between_unsigned_iff first final last]
  ac_rfl

/-- For such a problem these are all the buckets that the query counts, and for any other problem it
counts none. -/
lemma countedFor_longTerm (dated : store.Dated granularity)
    (present : problem ∈ rowsOf store.problems) :
    store.countedFor (longTermQuery granularity releases components last) problem =
      if problem.first ≤ last ∧ last ≤ problem.last then
        store.bucketsSinceFirst granularity releases problem else [] := by
  have counts (bucket : Bucket) (member : bucket ∈ store.buckets granularity) :
      store.countsFor (longTermQuery granularity releases components last) problem bucket =
        (decide (problem.first ≤ last ∧ last ≤ problem.last)
          && store.isSinceFirst releases problem bucket) :=
    countsFor_longTerm dated present member
  unfold countedFor bucketsSinceFirst
  change (store.buckets granularity).filter _ = _
  rw [List.filter_congr counts]
  split
  · rename_i between
    rw [decide_eq_true between]
    rfl
  · rename_i outside
    rw [decide_eq_false outside, List.filter_eq_nil_iff]
    intro bucket _
    exact Bool.false_ne_true

/-! ### The rows of the ranking -/

/-- The query lists a problem when its first and last occurrence enclose the first day of the last
month, some bucket of the selected releases starts on its first occurrence or later, and it is
linked to a listed component if there is a list. -/
lemma lists_longTerm_iff (dated : store.Dated granularity)
    (present : problem ∈ rowsOf store.problems) :
    store.lists (longTermQuery granularity releases components last) problem = true ↔
      (problem.first ≤ last ∧ last ≤ problem.last) ∧
        (∃ bucket ∈ store.buckets granularity,
          (∃ report ∈ rowsOf store.reports,
            report.id = bucket.report ∧ report.problem = some problem.id) ∧
          releases.has bucket.release = true ∧ problem.first ≤ bucket.start) ∧
        ∀ ids, components = some ids → ∃ link ∈ entriesOf store.componentLinks,
          link.problem = problem.id ∧ link.component ∈ ids := by
  have counted : (∃ bucket ∈ store.buckets granularity,
      store.countsFor (longTermQuery granularity releases components last) problem bucket = true) ↔
      (problem.first ≤ last ∧ last ≤ problem.last) ∧
        ∃ bucket ∈ store.buckets granularity,
          store.isSinceFirst releases problem bucket = true := by
    constructor
    · rintro ⟨bucket, member, counts⟩
      rw [countsFor_longTerm dated present member, Bool.and_eq_true, decide_eq_true_iff] at counts
      exact ⟨counts.1, bucket, member, counts.2⟩
    · rintro ⟨between, bucket, member, since⟩
      refine ⟨bucket, member, ?_⟩
      rw [countsFor_longTerm dated present member, decide_eq_true between, since]
      rfl
  rw [lists_iff, ← and_assoc]
  refine and_congr (counted.trans ?_) Iff.rfl
  simp only [isSinceFirst, Bool.and_eq_true, List.any_eq_true, decide_eq_true_eq]

/-- A row of the ranking is that of a listed problem, with the occurrences since its first one. -/
lemma of_mem_longTerm (dated : store.Dated granularity) {found : List RankedProblem}
    (ranked : store.rank (longTermQuery granularity releases components last) = .ok found)
    {row : RankedProblem} (member : row ∈ found) :
    row.problem ∈ rowsOf store.problems ∧ row.problem.first ≤ last ∧
      (∀ bucket ∈ store.bucketsSinceFirst granularity releases row.problem,
        bucket.count.isApproximate = false) ∧
      row.count = exactSum
        ((store.bucketsSinceFirst granularity releases row.problem).map Bucket.count) := by
  obtain ⟨problem, present, listed, rfl⟩ := (mem_rank_iff ranked).1 member
  have total := (rank_eq_of_ok ranked).2 problem present listed
  obtain ⟨between, -, -⟩ := (lists_longTerm_iff dated present).1 listed
  rw [countedFor_longTerm dated present, if_pos between] at total ⊢
  have exact := (Total.ofTallies_eq_exact_iff.1 total).1
  exact ⟨present, between.1, fun bucket inside => exact _ (List.mem_map_of_mem inside), rfl⟩

/-- The query lists only problems with an observed month. -/
lemma one_le_observedMonths_of_mem (dated : store.Dated granularity)
    (previous : today.firstOfPreviousMonth? = some last) {found : List RankedProblem}
    (ranked : store.rank (longTermQuery granularity releases components last) = .ok found)
    {row : RankedProblem} (member : row ∈ found) : 1 ≤ last.observedMonths row.problem.first := by
  obtain ⟨-, before, -, -⟩ := of_mem_longTerm dated ranked member
  exact Date.one_le_observedMonths (Date.of_firstOfPreviousMonth?_eq_some previous).1 before

/-- A row of the ranking shows the exact sum of the buckets since the first occurrence of its
problem and their average over the observed months. -/
lemma shown_of_mem_longTerm (dated : store.Dated (.ofToken token))
    (previous : today.firstOfPreviousMonth? = some last) {rows : List RankedProblem}
    (succeeds : store.longTermProblems token releases components today = .ok rows)
    {row : RankedProblem} (member : row ∈ rows) :
    (∀ bucket ∈ store.bucketsSinceFirst (.ofToken token) releases row.problem,
      bucket.count.isApproximate = false) ∧
    row.count = exactSum
      ((store.bucketsSinceFirst (.ofToken token) releases row.problem).map Bucket.count) ∧
    row.rank = Float.ofInt row.count / Float.ofInt (last.observedMonths row.problem.first) := by
  obtain ⟨found, ranked, rfl⟩ := (longTermProblems_eq_ok_iff previous).1 succeeds
  have shown := prioritize_perm fun row among =>
    one_le_observedMonths_of_mem dated previous ranked among
  obtain ⟨old, among, rfl⟩ := List.mem_map.1 (shown.mem_iff.1 member)
  obtain ⟨-, -, exact, sum⟩ := of_mem_longTerm dated ranked among
  exact ⟨exact, sum, rfl⟩

/-- The ranking has a row for the problems that the query lists. -/
lemma exists_longTerm_row_iff (dated : store.Dated (.ofToken token))
    (previous : today.firstOfPreviousMonth? = some last) {rows : List RankedProblem}
    (succeeds : store.longTermProblems token releases components today = .ok rows) :
    (∃ row ∈ rows, row.problem = problem) ↔ problem ∈ rowsOf store.problems ∧
      store.lists (longTermQuery (.ofToken token) releases components last) problem = true := by
  obtain ⟨found, ranked, rfl⟩ := (longTermProblems_eq_ok_iff previous).1 succeeds
  have problems := problems_prioritize_perm fun row among =>
    one_le_observedMonths_of_mem dated previous ranked among
  rw [← exists_row_iff ranked, ← List.mem_map, ← List.mem_map]
  exact problems.mem_iff

/-- What a long-term ranking means after any run of commands that enter, link, record or remove rows
and whose dates are written without a sign. When it succeeds, it has exactly one row for each
problem whose first and last occurrence enclose the first day of the last month, that has a bucket
in the selected releases on its first occurrence or later, and that is linked to a listed component
if there is a list. All rows of the query behind it have an observed month, and none of them is
dropped. A row shows the exact sum of the buckets since the first occurrence and its quotient by the
number of observed months, and the rows are in strict order. -/
theorem longTerm_meaning (commands : List Command)
    (keeps : ∀ command ∈ commands, command.keepsTables = true)
    (dates : ∀ command ∈ commands, ∀ date ∈ command.dates, date.IsUnsigned)
    (token : String) (releases : ReleaseSelection) (components : Option (List Int))
    (today last : Date) (previous : today.firstOfPreviousMonth? = some last)
    (rows : List RankedProblem)
    (succeeds : (migrated.run commands).longTermProblems token releases components today
      = .ok rows) :
    (∀ problem, (∃ row ∈ rows, row.problem = problem) ↔
      problem ∈ rowsOf (migrated.run commands).problems ∧
        (problem.first ≤ last ∧ last ≤ problem.last) ∧
        (∃ bucket ∈ (migrated.run commands).buckets (.ofToken token),
          (∃ report ∈ rowsOf (migrated.run commands).reports,
            report.id = bucket.report ∧ report.problem = some problem.id) ∧
          releases.has bucket.release = true ∧ problem.first ≤ bucket.start) ∧
        ∀ ids, components = some ids →
          ∃ link ∈ entriesOf (migrated.run commands).componentLinks,
            link.problem = problem.id ∧ link.component ∈ ids) ∧
    (rows.map fun row => row.problem.id).Nodup ∧
    (∃ found, (migrated.run commands).rank
        (longTermQuery (.ofToken token) releases components last) = .ok found ∧
      (∀ row ∈ found, 1 ≤ last.observedMonths row.problem.first) ∧
      (rows.map RankedProblem.problem).Perm (found.map RankedProblem.problem)) ∧
    (∀ row ∈ rows,
      (∃ counts : List Int,
        ((migrated.run commands).bucketsSinceFirst (.ofToken token) releases row.problem).map
            Bucket.count = counts.map Tally.exact ∧
          row.count = counts.sum) ∧
      row.rank = Float.ofInt row.count / Float.ofInt (last.observedMonths row.problem.first)) ∧
    rows.Pairwise fun a b =>
      Decimal.place b.rank < Decimal.place a.rank ∨ (Decimal.place a.rank = Decimal.place b.rank ∧
        (b.count < a.count ∨ (a.count = b.count ∧ a.problem.id < b.problem.id))) := by
  have dated := dated_run commands keeps dates (.ofToken token)
  obtain ⟨found, ranked, rfl⟩ := (longTermProblems_eq_ok_iff previous).1 succeeds
  have observed (row : RankedProblem) (member : row ∈ found) :=
    one_le_observedMonths_of_mem dated previous ranked member
  have problems := problems_prioritize_perm observed
  refine ⟨?_, nodup_prioritize last (nodup_rank ranked), ⟨found, ranked, observed, problems⟩,
    ?_, strict_prioritize last (nodup_rank ranked)⟩
  · intro problem
    rw [exists_longTerm_row_iff dated previous succeeds]
    apply and_congr_right
    intro present
    exact lists_longTerm_iff dated present
  · intro row member
    obtain ⟨exact, sum, rank⟩ := shown_of_mem_longTerm dated previous succeeds member
    have tallies : ∀ tally ∈ ((migrated.run commands).bucketsSinceFirst (.ofToken token) releases
        row.problem).map Bucket.count, tally.isApproximate = false := by
      intro tally inside
      obtain ⟨bucket, within, rfl⟩ := List.mem_map.1 inside
      exact exact bucket within
    refine ⟨⟨_, map_exactPart_of_exact tallies, ?_⟩, rank⟩
    rw [← exactSum_eq_sum]
    exact sum

/-- The first day of December 2024. -/
def decemberFirst : Date := ⟨739586, by decide, by decide⟩

/-- Commands that record occurrences of one problem on the last day of its first month and on the
day after. -/
def turnOfYear : List Command :=
  oneReport decemberFirst ++ [.linkComponent 1 1 1, .record 1 1 newYearsEve 10,
    .record 1 1 newYearsDay 90]

/-- In January a problem that occurred since the first of December is ranked. -/
theorem longTerm_of_turn_of_year :
    ∃ rows, (migrated.run turnOfYear).longTermProblems Granularity.monthly (.only [1]) (some [1])
        newYearsDay = .ok rows ∧
      ∃ row ∈ rows, row.problem = ⟨1, decemberFirst, newYearsDay⟩ := by
  have ranked : (migrated.run turnOfYear).longTermProblems Granularity.monthly (.only [1])
      (some [1]) newYearsDay = .ok (prioritize decemberFirst
        (sortByCount [.ofCount ⟨1, decemberFirst, newYearsDay⟩ 100])) := rfl
  have buckets : (migrated.run turnOfYear).buckets .monthly =
      [⟨1, 1, decemberFirst, .exact 10⟩, ⟨1, 1, newYearsDay, .exact 90⟩] := rfl
  have meaning := longTerm_meaning turnOfYear (by decide) (by decide) Granularity.monthly
    (.only [1]) (some [1]) newYearsDay decemberFirst rfl _ ranked
  refine ⟨_, ranked, (meaning.1 _).2 ⟨List.mem_singleton.2 rfl, by decide,
    ⟨⟨1, 1, decemberFirst, .exact 10⟩, ?_, ⟨_, List.mem_singleton.2 rfl, rfl, rfl⟩, by decide,
      by decide⟩, ?_⟩⟩
  · rw [Granularity.ofToken_name, buckets]
    exact List.mem_cons_self
  · intro ids listed
    cases listed
    exact ⟨⟨1, 1, 1⟩, List.mem_singleton.2 rfl, rfl, by decide⟩

/-! ### Months that are counted and months that are observed -/

/-- The monthly buckets of a problem from its first occurrence on up to the last month of
observation. -/
def observedBuckets (store : Store) (releases : ReleaseSelection) (last : Date)
    (problem : Problem) : List Bucket :=
  (store.bucketsSinceFirst .monthly releases problem).filter (·.start ≤ last)

/-- The monthly buckets of a problem after the last month of observation. -/
def laterBuckets (store : Store) (releases : ReleaseSelection) (last : Date)
    (problem : Problem) : List Bucket :=
  (store.bucketsSinceFirst .monthly releases problem).filter (last < ·.start)

/-- The months from the first occurrence on up to the last month are those that the number of
observed months counts. -/
lemma observed_iff_monthIndex {month : Date} (h : month.dayOfMonth = 1) (first : Date) :
    (first ≤ month ∧ month ≤ last) ↔
      last.monthIndex - last.observedMonths first < month.monthIndex ∧
        month.monthIndex ≤ last.monthIndex := by
  rw [Date.le_iff_lt_monthIndex h, Date.le_iff_of_dayOfMonth_eq_one h]

/-- The buckets since the first occurrence add up to those of the observed months and those after
them. -/
lemma exactSum_bucketsSinceFirst (store : Store) (releases : ReleaseSelection) (last : Date)
    (problem : Problem) :
    exactSum ((store.bucketsSinceFirst .monthly releases problem).map Bucket.count) =
      exactSum ((store.observedBuckets releases last problem).map Bucket.count)
        + exactSum ((store.laterBuckets releases last problem).map Bucket.count) := by
  have later : store.laterBuckets releases last problem =
      (store.bucketsSinceFirst .monthly releases problem).filter
        fun bucket => !decide (bucket.start ≤ last) := by
    apply List.filter_congr
    intro bucket _
    rw [← decide_not, decide_eq_decide, Date.lt_def, Date.le_def]
    omega
  rw [later]
  exact (exactSum_filter_add _ _).symm

/-- Some buckets with exact counts, which are positive, have a positive sum. -/
lemma Sound.exactSum_pos (sound : store.Sound) {rows : List Bucket}
    (among : ∀ row ∈ rows, row ∈ store.buckets granularity)
    (exact : ∀ row ∈ rows, row.count.isApproximate = false) (nonempty : rows ≠ []) :
    0 < exactSum (rows.map Bucket.count) := by
  rw [exactSum_eq_sum, List.map_map]
  apply List.sum_pos
  · intro n member
    obtain ⟨row, inside, rfl⟩ := List.mem_map.1 member
    have positive := sound.positive granularity row (among row inside)
    exact Tally.exactPart_pos positive (exact row inside)
  · intro none
    exact nonempty (List.map_eq_nil_iff.1 none)

/-- While the counts are exact, all occurrences since the first one are in the observed months
exactly when no bucket comes after them. -/
lemma Sound.sum_eq_observed_iff (sound : store.Sound)
    (exact : ∀ bucket ∈ store.bucketsSinceFirst .monthly releases problem,
      bucket.count.isApproximate = false) :
    exactSum ((store.bucketsSinceFirst .monthly releases problem).map Bucket.count)
        = exactSum ((store.observedBuckets releases last problem).map Bucket.count) ↔
      store.laterBuckets releases last problem = [] := by
  rw [exactSum_bucketsSinceFirst store releases last problem]
  constructor
  · intro same
    by_contra nonempty
    have since (bucket : Bucket) (inside : bucket ∈ store.laterBuckets releases last problem) :
        bucket ∈ store.bucketsSinceFirst .monthly releases problem := (List.mem_filter.1 inside).1
    have later := sound.exactSum_pos
      (fun bucket inside => (List.mem_filter.1 (since bucket inside)).1)
      (fun bucket inside => exact bucket (since bucket inside)) nonempty
    omega
  · intro none
    rw [none]
    exact Int.add_zero _

/-- What the average of a problem is taken of, at the granularity of months, after any run of
commands that enter, link, record or remove rows and whose dates are written without a sign. The
number of observed months counts the months from the first occurrence on up to the last month of
observation. The count of a row is the exact sum of the buckets in these months and of those after
them, so it is the number of occurrences in the observed months only if the problem has no bucket
after the last of them. -/
theorem monthly_count_splits (commands : List Command)
    (keeps : ∀ command ∈ commands, command.keepsTables = true)
    (dates : ∀ command ∈ commands, ∀ date ∈ command.dates, date.IsUnsigned)
    (token : String) (monthly : Granularity.ofToken token = .monthly)
    (releases : ReleaseSelection) (components : Option (List Int)) (today last : Date)
    (previous : today.firstOfPreviousMonth? = some last) (rows : List RankedProblem)
    (succeeds : (migrated.run commands).longTermProblems token releases components today
      = .ok rows) :
    ∀ row ∈ rows,
      (∀ month : Date, month.dayOfMonth = 1 → (row.problem.first ≤ month ∧ month ≤ last ↔
        last.monthIndex - last.observedMonths row.problem.first < month.monthIndex ∧
          month.monthIndex ≤ last.monthIndex)) ∧
      (∀ bucket ∈ (migrated.run commands).bucketsSinceFirst .monthly releases row.problem,
        bucket.start.dayOfMonth = 1 ∧ bucket.count.isApproximate = false) ∧
      row.count =
        exactSum (((migrated.run commands).observedBuckets releases last row.problem).map
          Bucket.count) +
        exactSum (((migrated.run commands).laterBuckets releases last row.problem).map
          Bucket.count) ∧
      (row.count = exactSum (((migrated.run commands).observedBuckets releases last
          row.problem).map Bucket.count) ↔
        (migrated.run commands).laterBuckets releases last row.problem = []) := by
  have sound := sound_migrated.run keeps
  have dated := dated_run commands keeps dates (.ofToken token)
  intro row member
  obtain ⟨exact, sum, -⟩ := shown_of_mem_longTerm dated previous succeeds member
  rw [monthly] at exact sum
  rw [sum]
  refine ⟨?_, ?_, exactSum_bucketsSinceFirst _ releases last row.problem,
    sound.sum_eq_observed_iff exact⟩
  · intro month begins
    exact observed_iff_monthIndex begins row.problem.first
  · intro bucket inside
    have member := (List.mem_filter.1 inside).1
    exact ⟨(accounted_run commands keeps).isBoundary_start sound member, exact bucket inside⟩

/-- At the turn of the year the one problem is ranked by what occurred in December and in January.
-/
lemma longTerm_turnOfYear :
    (migrated.run turnOfYear).longTermProblems Granularity.monthly .all none newYearsDay =
      .ok [(RankedProblem.ofCount ⟨1, decemberFirst, newYearsDay⟩ 100).averaged decemberFirst] := by
  have ranked : (migrated.run turnOfYear).longTermProblems Granularity.monthly .all none
      newYearsDay =
      .ok (prioritize decemberFirst
        (sortByCount [.ofCount ⟨1, decemberFirst, newYearsDay⟩ 100])) := rfl
  rw [ranked, prioritize_singleton (by decide)]

/-- Ten of these occurrences are in the one observed month. -/
lemma observed_turnOfYear :
    exactSum (((migrated.run turnOfYear).observedBuckets .all decemberFirst
      ⟨1, decemberFirst, newYearsDay⟩).map Bucket.count) = 10 := rfl

/-- Of one hundred occurrences around the turn of the year, ten are in the one observed month. -/
theorem monthly_count_of_turn_of_year :
    (100 : Int) = exactSum (((migrated.run turnOfYear).observedBuckets .all decemberFirst
        ⟨1, decemberFirst, newYearsDay⟩).map Bucket.count) + 90 ∧
      (migrated.run turnOfYear).laterBuckets .all decemberFirst
        ⟨1, decemberFirst, newYearsDay⟩ ≠ [] := by
  have splits := monthly_count_splits turnOfYear (by decide) (by decide) Granularity.monthly
    (Granularity.ofToken_name _) .all none newYearsDay decemberFirst rfl _ longTerm_turnOfYear _
    (List.mem_singleton_self _)
  refine ⟨splits.2.2.1, ?_⟩
  intro none
  have same : (100 : Int) = _ := splits.2.2.2.2 none
  exact absurd (same.trans observed_turnOfYear) (by decide)

/-- The count of a row is not in general the number of occurrences in the observed months: at the
turn of the year most of them are in the month of today. -/
theorem monthly_count_exceeds_observed :
    ¬ ∀ commands : List Command, (∀ command ∈ commands, command.keepsTables = true) →
      (∀ command ∈ commands, ∀ date ∈ command.dates, date.IsUnsigned) →
      ∀ (releases : ReleaseSelection) (components : Option (List Int)) (today last : Date),
        today.firstOfPreviousMonth? = some last →
      ∀ rows, (migrated.run commands).longTermProblems Granularity.monthly releases components today
        = .ok rows →
      ∀ row ∈ rows, row.count = exactSum
        (((migrated.run commands).observedBuckets releases last row.problem).map Bucket.count) := by
  intro averages
  have same : (100 : Int) = _ := averages turnOfYear (by decide) (by decide) .all none newYearsDay
    decemberFirst rfl _ longTerm_turnOfYear _ (List.mem_singleton_self _)
  exact absurd (same.trans observed_turnOfYear) (by decide)

end Store

end CrashTriage
