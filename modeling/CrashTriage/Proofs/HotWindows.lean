import CrashTriage.Proofs.DatedBuckets
import CrashTriage.Proofs.Granularities
import CrashTriage.Ranking.Hot

/-!
# What a hot ranking shows

A hot ranking counts the buckets that start on its cutoff or later. The start of a bucket stands for
the dates in it as far as the next boundary after the cutoff: the ranking shows what occurred from
that boundary on, which is the ranking by days with the boundary as its cutoff. What occurred
between the cutoff and the boundary is in a bucket that starts too early, so a problem is listed for
what occurred since the cutoff only when the cutoff is itself a boundary.
-/

namespace CrashTriage

/-! ### The next boundary -/

namespace Granularity

variable {granularity : Granularity} {cutoff next date start : Date}

/-- Whether a date is the first boundary that is not before a cutoff. -/
def IsNextBoundary (granularity : Granularity) (cutoff next : Date) : Prop :=
  granularity.IsBoundary next ∧ cutoff ≤ next ∧
    ∀ boundary, granularity.IsBoundary boundary → cutoff ≤ boundary → next ≤ boundary

/-- From a cutoff on a boundary, this is the first one. -/
lemma isNextBoundary_self (bounds : granularity.IsBoundary cutoff) :
    granularity.IsNextBoundary cutoff cutoff :=
  ⟨bounds, Int.le_refl cutoff.day, fun _ _ after => after⟩

/-- The bucket of a date starts on a cutoff or later exactly when the date is not before the next
boundary. -/
lemma IsNextBoundary.le_start_iff (nearest : granularity.IsNextBoundary cutoff next)
    (placed : granularity.bucketStart? date = some start) : cutoff ≤ start ↔ next ≤ date := by
  obtain ⟨bounds, after, first⟩ := nearest
  rw [boundary_le_iff placed bounds]
  constructor
  · intro inside
    exact first start (isBoundary_of_bucketStart? placed) inside
  · intro inside
    exact Int.le_trans after inside

end Granularity

namespace Store

variable {events : List Event} {store : Store} {granularity : Granularity} {token : String}
  {releases : ReleaseSelection} {components : Option (List Int)} {cutoff next today : Date}

/-! ### The occurrences that a hot ranking counts -/

/-- A hot ranking succeeds when its query does and its default cutoff is a date. -/
lemma hotProblems_eq_ok_iff {cutoff : Option Date} {rows : List RankedProblem} :
    store.hotProblems token releases components cutoff today = .ok rows ↔
      ∃ standard, today.addDays? (-defaultHotWindow) = some standard ∧
        store.rank (hotQuery (.ofToken token) releases components (cutoff.getD standard))
          = .ok rows := by
  unfold hotProblems
  simp only [bind_eq_ok_iff, inRange_eq_ok_iff]

/-- Whether occurrences count for a problem: their report belongs to it, their release is selected
and their date passes a test. -/
def occursFor (store : Store) (releases : ReleaseSelection) (test : Date → Bool)
    (problem : Problem) (occurrence : Occurrence) : Bool :=
  (rowsOf store.reports).any (fun report =>
      report.id = occurrence.report && report.problem = some problem.id)
    && (releases.has occurrence.release && test occurrence.date)

/-- A hot ranking counts the buckets of the occurrences whose dates pass a test, when the test is
whether the bucket of a date starts on the cutoff or later. -/
lemma follows_hot {test : Date → Bool}
    (unsigned : ∀ occurrence ∈ standing events, occurrence.date.IsUnsigned)
    (cutoffUnsigned : cutoff.IsUnsigned)
    (tests : ∀ date start, granularity.bucketStart? date = some start →
      (test date = true ↔ cutoff ≤ start)) (problem : Problem) :
    Follows events granularity
      (store.countsFor (hotQuery granularity releases components cutoff) problem)
      (store.occursFor releases test problem) := by
  intro occurrence stands bucket falls
  simp only [Occurrence.fallsIn, Bucket.key_eq, decide_eq_true_eq] at falls
  obtain ⟨report, release, placed⟩ := falls
  have year := year_start_le (unsigned occurrence stands) placed
  have clause : Clause.holds ⟨bucket, problem⟩ (.compare .bucketStart .ge (.date cutoff))
      = test occurrence.date := by
    have start : Clause.holds ⟨bucket, problem⟩ (.compare .bucketStart .ge (.date cutoff))
        = !bucket.start.isWrittenBefore cutoff := meets_ge_text bucket.start cutoff
    rw [start, not_isWrittenBefore_unsigned year cutoffUnsigned, Bool.eq_iff_iff,
      decide_eq_true_iff]
    exact (tests occurrence.date bucket.start placed).symm
  unfold countsFor RankQuery.counts hotQuery occursFor
  rw [List.all_cons, List.all_nil, Bool.and_true, clause, report, release]

/-- A hot ranking shows what occurred from the next boundary after its cutoff on. -/
lemma Accounted.hotProblems_eq (accounted : Accounted events store) (sound : store.Sound)
    (unsigned : ∀ occurrence ∈ standing events, occurrence.date.IsUnsigned)
    (cutoffUnsigned : cutoff.IsUnsigned)
    (nearest : (Granularity.ofToken token).IsNextBoundary cutoff next) {rows : List RankedProblem}
    (ranked : store.hotProblems token releases components (some cutoff) today = .ok rows) :
    rows = sortByCount (((rowsOf store.problems).filter fun problem =>
        !(chosen events store (store.occursFor releases (next ≤ ·) problem)).isEmpty
          && components.all fun ids => (entriesOf store.componentLinks).any fun link =>
            link.problem = problem.id && link.component ∈ ids).map fun problem =>
      .ofCount problem
        ((chosen events store (store.occursFor releases (next ≤ ·) problem)).map
          Occurrence.count).sum) := by
  obtain ⟨standard, -, ranked⟩ := hotProblems_eq_ok_iff.1 ranked
  have tests (date start : Date)
      (placed : (Granularity.ofToken token).bucketStart? date = some start) :
      decide (next ≤ date) = true ↔ cutoff ≤ start := by
    rw [decide_eq_true_iff, nearest.le_start_iff placed]
  exact accounted.rank_eq_of_follows sound (follows_hot unsigned cutoffUnsigned tests) ranked

/-! ### The same window at every granularity -/

/-- After any run of commands that enter, link, record or remove rows and whose recorded dates are
written without a sign, a hot ranking is the daily hot ranking with the next boundary after the
cutoff as its cutoff, whenever both succeed. A cutoff on a boundary therefore gives the same ranking
at its own granularity as by days. -/
theorem hot_windows_agree (commands : List Command)
    (keeps : ∀ command ∈ commands, command.keepsTables = true)
    (recorded : ∀ event ∈ migrated.trace commands, ∀ occurrence,
      event.occurrence? = some occurrence → occurrence.date.IsUnsigned)
    (token day : String) (daily : Granularity.ofToken day = .daily)
    (releases : ReleaseSelection) (components : Option (List Int)) (cutoff today today' : Date)
    (cutoffUnsigned : cutoff.IsUnsigned) (rows : List RankedProblem)
    (ranked : (migrated.run commands).hotProblems token releases components (some cutoff) today
      = .ok rows) :
    (∀ next, next.IsUnsigned → (Granularity.ofToken token).IsNextBoundary cutoff next →
      ∀ days, (migrated.run commands).hotProblems day releases components (some next) today'
        = .ok days → rows = days) ∧
    ((Granularity.ofToken token).IsBoundary cutoff →
      ∀ days, (migrated.run commands).hotProblems day releases components (some cutoff) today'
        = .ok days → rows = days) := by
  have accounted := accounted_run commands keeps
  have sound := sound_migrated.run keeps
  have unsigned (occurrence : Occurrence)
      (stands : occurrence ∈ standing (migrated.trace commands)) : occurrence.date.IsUnsigned := by
    obtain ⟨event, member, entered⟩ := exists_event_of_mem_standing stands
    exact recorded event member occurrence entered
  have windows (next : Date) (nextUnsigned : next.IsUnsigned)
      (nearest : (Granularity.ofToken token).IsNextBoundary cutoff next)
      (days : List RankedProblem)
      (succeeds : (migrated.run commands).hotProblems day releases components (some next) today'
        = .ok days) : rows = days := by
    have self : (Granularity.ofToken day).IsNextBoundary next next := by
      rw [daily]
      exact Granularity.isNextBoundary_self trivial
    rw [accounted.hotProblems_eq sound unsigned cutoffUnsigned nearest ranked,
      accounted.hotProblems_eq sound unsigned nextUnsigned self succeeds]
  exact ⟨windows, fun bounds =>
    windows cutoff cutoffUnsigned (Granularity.isNextBoundary_self bounds)⟩

/-- The first Monday of 2025. -/
def newYearsMonday : Date := ⟨739622, by decide, by decide⟩

/-- Commands that record occurrences of one problem in the week of New Year and in the week after.
-/
def twoWeeks : List Command :=
  oneReport newYearsEve ++ [.record 1 1 newYearsEve 2, .record 1 1 newYearsMonday 3]

/-- The week of New Year begins before New Year's Eve, so with that cutoff a weekly ranking shows
the second week only, as the days from its Monday on do. -/
theorem hot_of_two_weeks :
    ∃ weeks days,
      (migrated.run twoWeeks).hotProblems Granularity.weekly .all none (some newYearsEve)
        newYearsDay = .ok weeks ∧
      (migrated.run twoWeeks).hotProblems Granularity.daily .all none (some newYearsMonday)
        newYearsDay = .ok days ∧
      weeks = days ∧ weeks = sortByCount [.ofCount ⟨1, newYearsEve, newYearsMonday⟩ 3] := by
  have weekly : (migrated.run twoWeeks).hotProblems Granularity.weekly .all none
      (some newYearsEve) newYearsDay
      = .ok (sortByCount [.ofCount ⟨1, newYearsEve, newYearsMonday⟩ 3]) := rfl
  have daily : (migrated.run twoWeeks).hotProblems Granularity.daily .all none
      (some newYearsMonday) newYearsDay
      = .ok (sortByCount [.ofCount ⟨1, newYearsEve, newYearsMonday⟩ 3]) := rfl
  have nearest : Granularity.weekly.IsNextBoundary newYearsEve newYearsMonday := by
    refine ⟨by decide, by decide, fun boundary monday after => ?_⟩
    change (boundary.day + 5) % 7 = 0 at monday
    change 739616 ≤ boundary.day at after
    change 739622 ≤ boundary.day
    omega
  have agree := hot_windows_agree twoWeeks (by decide) (by decide) Granularity.weekly
    Granularity.daily (Granularity.ofToken_name _) .all none newYearsEve newYearsDay newYearsDay
    (by decide) _ weekly
  exact ⟨_, _, weekly, daily, agree.1 newYearsMonday (by decide) nearest _ daily, rfl⟩

/-! ### Which problems are hot -/

/-- Whether some occurrence of a problem bears a date that meets a condition: the problem and a
report of it are present, and the occurrence has been recorded since the report was entered. -/
def OccursWhen (events : List Event) (store : Store) (problem : Problem) (inTime : Date → Prop) :
    Prop :=
  problem ∈ rowsOf store.problems ∧
    ∃ report ∈ rowsOf store.reports, report.problem = some problem.id ∧
      ∃ occurrence ∈ occurrencesOf events report.id, inTime occurrence.date

/-- Occurrences that meet one condition meet any that follows from it. -/
lemma OccursWhen.imp {problem : Problem} {first second : Date → Prop}
    (occurs : OccursWhen events store problem first) (follows : ∀ date, first date → second date) :
    OccursWhen events store problem second := by
  obtain ⟨present, report, member, own, occurrence, recorded, inTime⟩ := occurs
  exact ⟨present, report, member, own, occurrence, recorded, follows _ inTime⟩

/-- Over all releases some occurrence is chosen for a problem when one of its reports has an
occurrence whose date passes the test. -/
lemma chosen_occursFor_ne_nil_iff {test : Date → Bool} {problem : Problem} :
    chosen events store (store.occursFor .all test problem) ≠ [] ↔
      ∃ report ∈ rowsOf store.reports, report.problem = some problem.id ∧
        ∃ occurrence ∈ occurrencesOf events report.id, test occurrence.date = true := by
  constructor
  · intro nonempty
    obtain ⟨occurrence, inside⟩ := List.exists_mem_of_ne_nil _ nonempty
    obtain ⟨stands, counted⟩ := List.mem_filter.1 inside
    simp only [occursFor, ReleaseSelection.has, Bool.and_eq_true, List.any_eq_true,
      decide_eq_true_eq] at counted
    obtain ⟨-, ⟨report, member, same, own⟩, -, passes⟩ := counted
    refine ⟨report, member, own, occurrence, ?_, passes⟩
    rw [occurrencesOf_eq_filter_standing, List.mem_filter, decide_eq_true_iff]
    exact ⟨stands, same.symm⟩
  · rintro ⟨report, member, own, occurrence, recorded, passes⟩
    rw [occurrencesOf_eq_filter_standing, List.mem_filter, decide_eq_true_iff] at recorded
    obtain ⟨stands, same⟩ := recorded
    refine List.ne_nil_of_mem (List.mem_filter.2 ⟨stands, ?_⟩)
    simp only [occursFor, ReleaseSelection.has, Bool.and_eq_true, List.any_eq_true,
      decide_eq_true_eq]
    exact ⟨refers_iff.2 ⟨report, member, same.symm⟩, ⟨report, member, same.symm, own⟩, trivial,
      passes⟩

/-- A hot ranking over all releases and components lists a problem exactly when some occurrence of
it is in a bucket that starts on the cutoff or later. -/
lemma Accounted.exists_hot_row_iff (accounted : Accounted events store) (sound : store.Sound)
    (unsigned : ∀ occurrence ∈ standing events, occurrence.date.IsUnsigned)
    (cutoffUnsigned : cutoff.IsUnsigned) {rows : List RankedProblem}
    (ranked : store.hotProblems token .all none (some cutoff) today = .ok rows)
    (problem : Problem) :
    (∃ row ∈ rows, row.problem = problem) ↔ OccursWhen events store problem fun date =>
      ∃ start, (Granularity.ofToken token).bucketStart? date = some start ∧ cutoff ≤ start := by
  generalize shape : Granularity.ofToken token = granularity
  obtain ⟨standard, -, ranked⟩ := hotProblems_eq_ok_iff.1 ranked
  rw [shape] at ranked
  have tests (date start : Date) (placed : granularity.bucketStart? date = some start) :
      (granularity.bucketStart? date).any (cutoff ≤ ·) = true ↔ cutoff ≤ start := by
    rw [placed, Option.any_some, decide_eq_true_iff]
  have counted : (∃ bucket ∈ store.buckets granularity,
      store.countsFor (hotQuery granularity .all none cutoff) problem bucket = true) ↔ _ :=
    accounted.exists_kept_bucket_iff sound (follows_hot unsigned cutoffUnsigned tests problem)
  rw [chosen_occursFor_ne_nil_iff] at counted
  have listed : store.lists (hotQuery granularity .all none cutoff) problem = true ↔
      ∃ bucket ∈ store.buckets granularity,
        store.countsFor (hotQuery granularity .all none cutoff) problem bucket = true := by
    rw [lists_iff]
    exact and_iff_left nofun
  rw [exists_row_iff ranked]
  unfold OccursWhen
  refine and_congr_right fun _ => listed.trans (counted.trans ?_)
  simp only [Option.any_eq_true, decide_eq_true_eq]

/-- After any run of commands that enter, link, record or remove rows and whose dates are written
without a sign, a hot ranking over all releases and components lists a problem exactly when some
occurrence of it is in a bucket that starts on the cutoff or later. All these problems have occurred
since the cutoff, and they are all that have when the cutoff is on a boundary. -/
theorem hot_lists_buckets_since (commands : List Command)
    (keeps : ∀ command ∈ commands, command.keepsTables = true)
    (dates : ∀ command ∈ commands, ∀ date ∈ command.dates, date.IsUnsigned)
    (token : String) (cutoff today : Date) (cutoffUnsigned : cutoff.IsUnsigned)
    (rows : List RankedProblem)
    (ranked : (migrated.run commands).hotProblems token .all none (some cutoff) today
      = .ok rows) (problem : Problem) :
    ((∃ row ∈ rows, row.problem = problem) ↔
      OccursWhen (migrated.trace commands) (migrated.run commands) problem fun date =>
        ∃ start, (Granularity.ofToken token).bucketStart? date = some start ∧ cutoff ≤ start) ∧
    ((∃ row ∈ rows, row.problem = problem) →
      OccursWhen (migrated.trace commands) (migrated.run commands) problem (cutoff ≤ ·)) ∧
    ((Granularity.ofToken token).IsBoundary cutoff →
      OccursWhen (migrated.trace commands) (migrated.run commands) problem (cutoff ≤ ·) →
        ∃ row ∈ rows, row.problem = problem) := by
  have accounted := accounted_run commands keeps
  have sound := sound_migrated.run keeps
  have unsigned (occurrence : Occurrence)
      (stands : occurrence ∈ standing (migrated.trace commands)) : occurrence.date.IsUnsigned :=
    date_of_mem_standing dates stands
  have listed := accounted.exists_hot_row_iff sound unsigned cutoffUnsigned ranked problem
  refine ⟨listed, fun row => (listed.1 row).imp fun date => ?_, fun bounds occurs => ?_⟩
  · rintro ⟨start, placed, since⟩
    exact Int.le_trans since (Granularity.bucketStart?_le placed)
  · obtain ⟨present, report, member, own, occurrence, recorded, since⟩ := occurs
    have stands : occurrence ∈ standing (migrated.trace commands) := by
      rw [occurrencesOf_eq_filter_standing] at recorded
      exact (List.mem_filter.1 recorded).1
    obtain ⟨start, placed⟩ := accounted.placed occurrence stands (.ofToken token)
    exact listed.2 ⟨present, report, member, own, occurrence, recorded, start, placed,
      (Granularity.boundary_le_iff placed bounds).1 since⟩

/-- A cutoff on the first day of a month is a boundary of months, so what occurred on a Monday of
that month is seen. -/
theorem hot_of_new_month :
    ∃ rows,
      (migrated.run twoWeeks).hotProblems Granularity.monthly .all none (some newYearsDay)
        newYearsMonday = .ok rows ∧
      ∃ row ∈ rows, row.problem = ⟨1, newYearsEve, newYearsMonday⟩ := by
  have ranked : (migrated.run twoWeeks).hotProblems Granularity.monthly .all none
      (some newYearsDay) newYearsMonday
      = .ok (sortByCount [.ofCount ⟨1, newYearsEve, newYearsMonday⟩ 3]) := rfl
  have listing := hot_lists_buckets_since twoWeeks (by decide) (by decide) Granularity.monthly
    newYearsDay newYearsMonday (by decide) _ ranked ⟨1, newYearsEve, newYearsMonday⟩
  have recorded : occurrencesOf (migrated.trace twoWeeks) 1 =
      [⟨1, 1, newYearsEve, 2⟩, ⟨1, 1, newYearsMonday, 3⟩] := rfl
  refine ⟨_, ranked, listing.2.2 (by decide) ?_⟩
  refine ⟨List.mem_singleton.2 rfl,
    ⟨1, some 1, 1, "core", newYearsEve, newYearsMonday, .exact 5⟩, List.mem_singleton.2 rfl, rfl,
    ⟨1, 1, newYearsMonday, 3⟩, ?_, by decide⟩
  rw [recorded]
  exact List.mem_cons_of_mem _ (List.mem_singleton_self _)

/-- Not every problem that has occurred since the cutoff is listed: what occurred on New Year's Day
is in a week that begins before New Year's Eve. -/
theorem hot_misses_week_of_cutoff :
    ¬ ∀ commands : List Command, (∀ command ∈ commands, command.keepsTables = true) →
      (∀ command ∈ commands, ∀ date ∈ command.dates, date.IsUnsigned) →
      ∀ (token : String) (cutoff today : Date), cutoff.IsUnsigned →
      ∀ rows, (migrated.run commands).hotProblems token .all none (some cutoff) today
        = .ok rows →
      ∀ problem,
        OccursWhen (migrated.trace commands) (migrated.run commands) problem (cutoff ≤ ·) →
          ∃ row ∈ rows, row.problem = problem := by
  intro misses_none
  have ranked : (migrated.run (oneReport newYearsDay ++ [.record 1 1 newYearsDay 2])).hotProblems
      Granularity.weekly .all none (some newYearsEve) newYearsDay = .ok (sortByCount []) := rfl
  have occurs : OccursWhen
      (migrated.trace (oneReport newYearsDay ++ [.record 1 1 newYearsDay 2]))
      (migrated.run (oneReport newYearsDay ++ [.record 1 1 newYearsDay 2]))
      ⟨1, newYearsDay, newYearsDay⟩ (newYearsEve ≤ ·) :=
    ⟨List.mem_singleton.2 rfl,
      ⟨1, some 1, 1, "core", newYearsDay, newYearsDay, .exact 2⟩, List.mem_singleton.2 rfl, rfl,
      ⟨1, 1, newYearsDay, 2⟩, List.mem_singleton.2 rfl, by decide⟩
  obtain ⟨row, member, -⟩ := misses_none _ (by decide) (by decide) Granularity.weekly newYearsEve
    newYearsDay (by decide) _ ranked _ occurs
  rw [(sortByCount_perm []).mem_iff] at member
  cases member

end Store

end CrashTriage
