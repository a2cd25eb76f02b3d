import CrashTriage.Proofs.HotWindows
import CrashTriage.Proofs.LongTermMeaning
import CrashTriage.Proofs.OccurrenceRanges
import CrashTriage.Proofs.SplitRankings

/-!
# Partial buckets

The long-term ranking leaves out the buckets that start before the first occurrence of their
problem. The first occurrence is the first of all dates recorded for the problem, in whichever order
they were recorded, so a bucket of the problem that starts before it holds it. Hence only the bucket
of the first occurrence can be left out, and it is left out when the first occurrence is not the
start of it. By days this never happens; by months it takes away what was recorded in the first
month of the problem, unless that month is complete.
-/

namespace CrashTriage

namespace Granularity

variable {granularity : Granularity} {first date start : Date}

/-- Whether a bucket holds a first occurrence but starts before it. -/
def isPartial (granularity : Granularity) (first start : Date) : Bool :=
  granularity.bucketStart? first = some start && start ≠ first

/-- The bucket of a date is that of every date from its start on up to the date. -/
lemma bucketStart?_of_between (placed : granularity.bucketStart? date = some start)
    (after : start ≤ first) (before : first ≤ date) :
    granularity.bucketStart? first = some start := by
  cases granularity with
  | daily =>
    rw [bucketStart?_daily, Option.some.injEq] at placed ⊢
    rw [placed] at before
    exact Date.eq_of_day_eq (Int.le_antisymm before after)
  | weekly =>
    rw [bucketStart?_weekly_eq_some_iff] at placed ⊢
    exact ⟨placed.1, after, Int.lt_of_le_of_lt before placed.2.2⟩
  | monthly =>
    rw [bucketStart?_monthly_eq_some_iff] at placed ⊢
    have low := Date.monthIndex_le_of_le after
    have high := Date.monthIndex_le_of_le before
    exact ⟨placed.1, by omega⟩

/-- The bucket of a date that is not before the first occurrence starts on the first occurrence or
later unless it is partial. -/
lemma first_le_start_iff (placed : granularity.bucketStart? date = some start)
    (before : first ≤ date) : first ≤ start ↔ granularity.isPartial first start = false := by
  unfold isPartial
  rw [Bool.and_eq_false_iff, decide_eq_false_iff_not, decide_eq_false_iff_not, not_not]
  constructor
  · intro after
    by_cases own : granularity.bucketStart? first = some start
    · exact .inr (Date.eq_of_day_eq (Int.le_antisymm (bucketStart?_le own) after))
    · exact .inl own
  · rintro (other | rfl)
    · by_contra early
      exact other (bucketStart?_of_between placed (Int.le_of_lt (Int.not_le.1 early)) before)
    · exact Int.le_refl start.day

/-- No day is partial. -/
lemma isPartial_daily (first start : Date) : daily.isPartial first start = false := by
  unfold isPartial
  rw [bucketStart?_daily, Bool.and_eq_false_iff, decide_eq_false_iff_not, decide_eq_false_iff_not,
    not_not, Option.some.injEq]
  exact (eq_or_ne start first).symm.imp Ne.symm id

/-- The month of a date that is not before the first occurrence starts on the first occurrence or
later unless it is the month of the first occurrence, and that is not on its first day. -/
lemma first_le_start_monthly_iff (placed : monthly.bucketStart? date = some start)
    (before : first ≤ date) :
    first ≤ start ↔ ¬ (first.dayOfMonth ≠ 1 ∧ date.monthIndex = first.monthIndex) := by
  obtain ⟨one, index⟩ := bucketStart?_monthly_eq_some_iff.1 placed
  have months := Date.monthIndex_le_of_le before
  have days := Date.dayOfMonth_bounds first
  have order : first ≤ start ↔ ¬ start < first := by
    rw [Date.le_def, Date.lt_def]
    omega
  rw [order, Date.lt_iff_monthIndex, one, index]
  omega

end Granularity

namespace Store

variable {granularity : Granularity} {releases : ReleaseSelection}
  {components : Option (List Int)} {today last : Date} {problem : Problem} {bucket : Bucket}

/-! ### The buckets that remain -/

/-- The buckets of a problem in the selected releases that are not partial. -/
def wholeBuckets (store : Store) (granularity : Granularity) (releases : ReleaseSelection)
    (problem : Problem) : List Bucket :=
  (store.countedFor ⟨granularity, releases, none, []⟩ problem).filter fun bucket =>
    !granularity.isPartial problem.first bucket.start

/-- Whether a problem is linked to a listed component, if there is a list. -/
def LinkedTo (store : Store) (components : Option (List Int)) (problem : Problem) : Prop :=
  ∀ ids, components = some ids → ∃ link ∈ entriesOf store.componentLinks,
    link.problem = problem.id ∧ link.component ∈ ids

/-- What was recorded for a problem in the selected releases on dates that pass a test. -/
def recorded (events : List Event) (store : Store) (releases : ReleaseSelection)
    (test : Date → Bool) (problem : Problem) : Int :=
  ((chosen events store (store.occursFor releases test problem)).map Occurrence.count).sum

/-- By days all buckets remain. -/
lemma wholeBuckets_daily (store : Store) (releases : ReleaseSelection) (problem : Problem) :
    store.wholeBuckets .daily releases problem
      = store.countedFor ⟨.daily, releases, none, []⟩ problem :=
  List.filter_eq_self.2 fun bucket _ => by rw [Granularity.isPartial_daily, Bool.not_false]

/-- What was recorded splits by a test of dates. -/
lemma recorded_split (events : List Event) (store : Store) (releases : ReleaseSelection)
    (test : Date → Bool) (problem : Problem) :
    recorded events store releases test problem
        + recorded events store releases (fun date => !test date) problem
      = recorded events store releases (fun _ => true) problem := by
  have part (test : Date → Bool) : chosen events store (store.occursFor releases test problem)
      = (chosen events store (store.occursFor releases (fun _ => true) problem)).filter
        fun occurrence => test occurrence.date := by
    unfold chosen
    rw [List.filter_filter]
    refine List.filter_congr fun occurrence _ => ?_
    unfold occursFor
    rw [Bool.and_true]
    ac_rfl
  unfold recorded
  rw [part test, part fun date => !test date]
  exact sum_filter_add_sum_filter_not (fun occurrence : Occurrence => test occurrence.date) _

section
variable {commands : List Command} (keeps : ∀ command ∈ commands, command.keepsTables = true)
  (dates : ∀ command ∈ commands, ∀ date ∈ command.dates, date.IsUnsigned)
include keeps dates

/-- No occurrence on a report of a problem precedes the first occurrence of the problem. -/
lemma first_le_of_stands (present : problem ∈ rowsOf (migrated.run commands).problems)
    {occurrence : Occurrence} (stands : occurrence ∈ standing (migrated.trace commands))
    (belongs : ((rowsOf (migrated.run commands).reports).any fun report =>
      report.id = occurrence.report && report.problem = some problem.id) = true) :
    problem.first ≤ occurrence.date := by
  obtain ⟨report, member, both⟩ := List.any_eq_true.1 belongs
  rw [Bool.and_eq_true, decide_eq_true_iff, decide_eq_true_iff] at both
  have ranged := ranged_run commands keeps
  have among : occurrence.date ∈ problemDates (migrated.moments commands) problem.id := by
    rw [← map_toEvent_moments] at stands
    exact ranged.shared report member problem.id both.2 occurrence stands both.1.symm
  have within := (ranged.problem problem present).within _ among
  have unsigned := (problem_dates_of_run commands keeps dates problem present).1
  exact (Date.writtenLE_iff_of_isUnsigned unsigned (date_of_mem_standing dates stands)).1 within.1

/-- The buckets of a problem that start on its first occurrence or later are those that are not
partial. -/
lemma bucketsSinceFirst_eq (present : problem ∈ rowsOf (migrated.run commands).problems) :
    (migrated.run commands).bucketsSinceFirst granularity releases problem
      = (migrated.run commands).wholeBuckets granularity releases problem := by
  unfold bucketsSinceFirst wholeBuckets countedFor
  rw [List.filter_filter]
  refine List.filter_congr fun bucket inside => ?_
  obtain ⟨occurrence, stands, falls⟩ := (accounted_run commands keeps).exists_mem_standing
    (sound_migrated.run keeps) inside
  simp only [Occurrence.fallsIn, Bucket.key_eq, decide_eq_true_eq] at falls
  unfold isSinceFirst countsFor RankQuery.counts
  rw [← falls.1]
  cases belongs : (rowsOf (migrated.run commands).reports).any fun report =>
      report.id = occurrence.report && report.problem = some problem.id with
  | false => rw [Bool.false_and, Bool.false_and, Bool.and_false]
  | true =>
    have before := first_le_of_stands keeps dates present stands belongs
    have since : decide (problem.first ≤ bucket.start)
        = !granularity.isPartial problem.first bucket.start := by
      rw [Bool.eq_iff_iff, decide_eq_true_iff, Bool.not_eq_true',
        Granularity.first_le_start_iff falls.2.2 before]
    rw [since, Bool.true_and, Bool.true_and, List.all_nil, Bool.and_true, Bool.and_comm]

/-- The buckets that start on the first occurrence or later follow the occurrences whose dates pass
a test, when the test is whether the bucket of such a date does. -/
lemma follows_isSinceFirst (present : problem ∈ rowsOf (migrated.run commands).problems)
    {test : Date → Bool} (tests : ∀ date start, problem.first ≤ date →
      granularity.bucketStart? date = some start → (test date = true ↔ problem.first ≤ start)) :
    Follows (migrated.trace commands) granularity
      ((migrated.run commands).isSinceFirst releases problem)
      ((migrated.run commands).occursFor releases test problem) := by
  intro occurrence stands bucket falls
  simp only [Occurrence.fallsIn, Bucket.key_eq, decide_eq_true_eq] at falls
  unfold isSinceFirst occursFor
  rw [← falls.1, ← falls.2.1]
  cases belongs : (rowsOf (migrated.run commands).reports).any fun report =>
      report.id = occurrence.report && report.problem = some problem.id with
  | false => rw [Bool.false_and, Bool.false_and]
  | true =>
    have before := first_le_of_stands keeps dates present stands belongs
    have passes : test occurrence.date = decide (problem.first ≤ bucket.start) := by
      rw [Bool.eq_iff_iff, decide_eq_true_iff]
      exact tests occurrence.date bucket.start before falls.2.2
    rw [passes]

/-! ### What a row shows -/

variable (previous : today.firstOfPreviousMonth? = some last)
  (present : problem ∈ rowsOf (migrated.run commands).problems)
  (enclose : problem.first ≤ last ∧ last ≤ problem.last)
include previous present enclose

section
variable {token : String} {rows : List RankedProblem}
  (succeeds : (migrated.run commands).longTermProblems token releases components today = .ok rows)
include succeeds

/-- A problem that was active around the last month is shown when a bucket of it remains and the
components admit it. -/
lemma exists_active_row_iff : (∃ row ∈ rows, row.problem = problem) ↔
    (migrated.run commands).wholeBuckets (.ofToken token) releases problem ≠ [] ∧
      (migrated.run commands).LinkedTo components problem := by
  have dated := dated_run commands keeps dates (.ofToken token)
  have linked : (longTermQuery (.ofToken token) releases components last).admits
      (entriesOf (migrated.run commands).componentLinks) problem = true ↔
        (migrated.run commands).LinkedTo components problem := by
    unfold RankQuery.admits longTermQuery LinkedTo
    cases components with
    | none => simp
    | some ids => simp
  rw [exists_longTerm_row_iff dated previous succeeds, lists_iff_exists, linked,
    countedFor_longTerm dated present, if_pos enclose, bucketsSinceFirst_eq keeps dates present,
    ← List.isEmpty_eq_false_iff_exists_mem, List.isEmpty_eq_false_iff]
  exact and_iff_right present

/-- Its count is the exact sum of these buckets, also when there are none and it is not shown. -/
lemma countOf_longTerm (linked : (migrated.run commands).LinkedTo components problem) :
    countOf rows problem = exactSum
        (((migrated.run commands).bucketsSinceFirst (.ofToken token) releases problem).map
          Bucket.count) ∧
      ∀ bucket ∈ (migrated.run commands).bucketsSinceFirst (.ofToken token) releases problem,
        bucket.count.isApproximate = false := by
  unfold countOf
  cases found : rows.find? fun row => row.problem = problem with
  | some row =>
    have same : row.problem = problem := by simpa using List.find?_some found
    obtain ⟨exact, sum, -⟩ := shown_of_mem_longTerm
      (dated_run commands keeps dates (.ofToken token)) previous succeeds
      (List.mem_of_find?_eq_some found)
    rw [same] at exact sum
    exact ⟨sum, exact⟩
  | none =>
    have nothing : (migrated.run commands).bucketsSinceFirst (.ofToken token) releases problem
        = [] := by
      rw [bucketsSinceFirst_eq keeps dates present]
      by_contra remains
      obtain ⟨row, member, same⟩ := (exists_active_row_iff keeps dates previous present enclose
        succeeds).2 ⟨remains, linked⟩
      exact List.find?_eq_none.1 found row member (decide_eq_true same)
    rw [nothing]
    exact ⟨rfl, fun bucket inside => absurd inside List.not_mem_nil⟩

/-- In terms of the records, it is what was recorded on the dates whose buckets start on the first
occurrence or later. -/
lemma countOf_eq_recorded (linked : (migrated.run commands).LinkedTo components problem)
    {test : Date → Bool} (tests : ∀ date start, problem.first ≤ date →
      (Granularity.ofToken token).bucketStart? date = some start →
        (test date = true ↔ problem.first ≤ start)) :
    countOf rows problem
      = recorded (migrated.trace commands) (migrated.run commands) releases test problem := by
  obtain ⟨sum, exact⟩ := countOf_longTerm keeps dates previous present enclose succeeds linked
  rw [sum]
  refine (accounted_run commands keeps).exactSum_kept (sound_migrated.run keeps)
    (follows_isSinceFirst keeps dates present tests) fun bucket inside since => ?_
  exact exact bucket (List.mem_filter.2 ⟨inside, since⟩)

end

/-- What a problem shows by days and not by months is what was recorded in the month of its first
occurrence, if that is not on the first day of the month. -/
lemma countOf_daily_sub_monthly (linked : (migrated.run commands).LinkedTo components problem)
    {day month : String} (daily : Granularity.ofToken day = .daily)
    (monthly : Granularity.ofToken month = .monthly) {days months : List RankedProblem}
    (byDays : (migrated.run commands).longTermProblems day releases components today = .ok days)
    (byMonths : (migrated.run commands).longTermProblems month releases components today
      = .ok months) :
    countOf days problem - countOf months problem =
      if problem.first.dayOfMonth = 1 then 0
      else recorded (migrated.trace commands) (migrated.run commands) releases
        (fun date => date.year = problem.first.year ∧ date.month = problem.first.month)
        problem := by
  have whole : countOf days problem = recorded (migrated.trace commands) (migrated.run commands)
      releases (fun _ => true) problem := by
    refine countOf_eq_recorded keeps dates previous present enclose byDays linked ?_
    intro date start before placed
    rw [daily, Granularity.bucketStart?_daily, Option.some.injEq] at placed
    rw [← placed]
    exact ⟨fun _ => before, fun _ => rfl⟩
  split
  · rename_i begins
    have same : countOf months problem = recorded (migrated.trace commands)
        (migrated.run commands) releases (fun _ => true) problem := by
      refine countOf_eq_recorded keeps dates previous present enclose byMonths linked ?_
      intro date start before placed
      rw [monthly] at placed
      rw [Granularity.first_le_start_monthly_iff placed before]
      exact ⟨fun _ both => both.1 begins, fun _ => rfl⟩
    rw [whole, same, Int.sub_self]
  · rename_i late
    have later : countOf months problem = recorded (migrated.trace commands)
        (migrated.run commands) releases (fun date =>
          !decide (date.year = problem.first.year ∧ date.month = problem.first.month))
        problem := by
      refine countOf_eq_recorded keeps dates previous present enclose byMonths linked ?_
      intro date start before placed
      rw [monthly] at placed
      rw [Granularity.first_le_start_monthly_iff placed before, Bool.not_eq_true',
        decide_eq_false_iff_not, ← Date.monthIndex_eq_iff]
      exact ⟨fun other both => other both.2, fun none own => none ⟨late, own⟩⟩
    rw [whole, later, ← recorded_split, Int.add_sub_cancel]

end

/-- Which buckets the long-term ranking leaves out, after any run of commands that enter, link,
record or remove rows and whose dates are written without a sign. The count of a problem whose first
and last occurrence enclose the first day of the last month is the exact sum of all its buckets in
the selected releases except those that hold its first occurrence and start before it. It is shown
exactly when such a bucket remains, provided that it is linked to a listed component if there is a
list. By days nothing is left out. By months, what was recorded in the month of the first occurrence
is missing unless the first occurrence is on the first day of that month. -/
theorem longTerm_leaves_out_partial_buckets (commands : List Command)
    (keeps : ∀ command ∈ commands, command.keepsTables = true)
    (dates : ∀ command ∈ commands, ∀ date ∈ command.dates, date.IsUnsigned)
    (releases : ReleaseSelection) (components : Option (List Int)) (today last : Date)
    (previous : today.firstOfPreviousMonth? = some last) (problem : Problem)
    (present : problem ∈ rowsOf (migrated.run commands).problems)
    (enclose : problem.first ≤ last ∧ last ≤ problem.last) :
    (∀ token rows,
      (migrated.run commands).longTermProblems token releases components today = .ok rows →
      ((∃ row ∈ rows, row.problem = problem) ↔
        (migrated.run commands).wholeBuckets (.ofToken token) releases problem ≠ [] ∧
          (migrated.run commands).LinkedTo components problem) ∧
      ∀ row ∈ rows, row.problem = problem → ∃ counts : List Int,
        ((migrated.run commands).wholeBuckets (.ofToken token) releases problem).map Bucket.count
            = counts.map Tally.exact ∧
          row.count = counts.sum) ∧
    (migrated.run commands).wholeBuckets .daily releases problem
      = (migrated.run commands).countedFor ⟨.daily, releases, none, []⟩ problem ∧
    ((migrated.run commands).LinkedTo components problem → ∀ day month : String,
      Granularity.ofToken day = .daily → Granularity.ofToken month = .monthly → ∀ days months,
      (migrated.run commands).longTermProblems day releases components today = .ok days →
      (migrated.run commands).longTermProblems month releases components today = .ok months →
      countOf days problem - countOf months problem =
        if problem.first.dayOfMonth = 1 then 0
        else recorded (migrated.trace commands) (migrated.run commands) releases
          (fun date => date.year = problem.first.year ∧ date.month = problem.first.month)
          problem) := by
  refine ⟨?_, wholeBuckets_daily _ releases problem, ?_⟩
  · intro token rows succeeds
    refine ⟨exists_active_row_iff keeps dates previous present enclose succeeds, ?_⟩
    rintro row member rfl
    obtain ⟨exact, sum, -⟩ := shown_of_mem_longTerm
      (dated_run commands keeps dates (.ofToken token)) previous succeeds member
    rw [bucketsSinceFirst_eq keeps dates present] at exact sum
    refine ⟨_, map_exactPart_of_exact fun tally inside => ?_, sum.trans (exactSum_eq_sum _)⟩
    obtain ⟨bucket, among, rfl⟩ := List.mem_map.1 inside
    exact exact bucket among
  · intro linked day month daily monthly days months byDays byMonths
    exact countOf_daily_sub_monthly keeps dates previous present enclose linked daily monthly
      byDays byMonths

/-- The first day of February 2025. -/
def februaryFirst : Date := ⟨739648, by decide, by decide⟩

/-- A problem occurred first on New Year's Eve, and only the records on the report under the reused
id remain. In February no week of it is whole, and by months it shows the three occurrences of New
Year's Eve less than by days. -/
theorem longTerm_of_reusedId :
    (migrated.run reusedId).wholeBuckets .weekly .all ⟨1, newYearsEve, newYearsDay⟩ = [] ∧
      ∃ days months,
        (migrated.run reusedId).longTermProblems Granularity.daily .all none februaryFirst
          = .ok days ∧
        (migrated.run reusedId).longTermProblems Granularity.monthly .all none februaryFirst
          = .ok months ∧
        (∃ row ∈ months, row.problem = ⟨1, newYearsEve, newYearsDay⟩) ∧
        countOf days ⟨1, newYearsEve, newYearsDay⟩
          - countOf months ⟨1, newYearsEve, newYearsDay⟩ = 3 := by
  have byWeeks : (migrated.run reusedId).longTermProblems Granularity.weekly .all none februaryFirst
      = .ok (prioritize newYearsDay (sortByCount [])) := rfl
  rw [sortByCount, List.mergeSort_nil, prioritize, List.filterMap_nil, List.mergeSort_nil]
    at byWeeks
  have byDays : (migrated.run reusedId).longTermProblems Granularity.daily .all none februaryFirst
      = .ok (prioritize newYearsDay
        (sortByCount [.ofCount ⟨1, newYearsEve, newYearsDay⟩ 7])) := rfl
  have byMonths : (migrated.run reusedId).longTermProblems Granularity.monthly .all none
      februaryFirst = .ok (prioritize newYearsDay
        (sortByCount [.ofCount ⟨1, newYearsEve, newYearsDay⟩ 4])) := rfl
  obtain ⟨shown, -, differ⟩ := longTerm_leaves_out_partial_buckets reusedId (by decide) (by decide)
    .all none februaryFirst newYearsDay rfl ⟨1, newYearsEve, newYearsDay⟩
    (List.mem_singleton.2 rfl) (by decide)
  have linked : (migrated.run reusedId).LinkedTo none ⟨1, newYearsEve, newYearsDay⟩ := by
    intro ids listed
    cases listed
  refine ⟨?_, _, _, byDays, byMonths, ?_, (differ linked _ _ (Granularity.ofToken_name _)
    (Granularity.ofToken_name _) _ _ byDays byMonths).trans rfl⟩
  · by_contra remains
    obtain ⟨row, member, -⟩ := (shown _ _ byWeeks).1.2 ⟨remains, linked⟩
    cases member
  · exact (shown _ _ byMonths).1.2 ⟨by decide, linked⟩

end Store

end CrashTriage
