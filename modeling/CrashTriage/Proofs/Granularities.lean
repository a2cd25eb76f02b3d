import CrashTriage.Proofs.ScopedTotals
import CrashTriage.Proofs.ReportBuckets

/-!
# Totals at every granularity

The buckets of every granularity regroup the same occurrences. Totals over all of time therefore do
not depend on the granularity at which they are asked for, as long as they can be read at all:
neither rankings and sums by problem, nor the totals of an operating system and of its components.
-/

namespace CrashTriage

namespace Store

variable {events : List Event} {store : Store}

/-! ### Selections of occurrences -/

/-- The sum of the selected occurrences, which no granularity enters. -/
def selectedSum (events : List Event) (store : Store) (select : Int → Int → Bool) : Int :=
  ((selected events store select).map Occurrence.count).sum

/-- An exact total of selected buckets is the sum of the selected occurrences. -/
lemma Accounted.eq_selectedSum_of_total (accounted : Accounted events store) (sound : store.Sound)
    {granularity : Granularity} {select : Int → Int → Bool} {n : Int}
    (total : Total.ofTallies (((store.buckets granularity).filter fun bucket =>
      select bucket.report bucket.release).map Bucket.count) = .exact n) :
    n = selectedSum events store select :=
  accounted.eq_sum_of_total sound (follows_select events granularity select) total

/-- Whether buckets are selected does not depend on the granularity either. -/
lemma Accounted.isEmpty_buckets_iff (accounted : Accounted events store) (sound : store.Sound)
    (granularity : Granularity) (select : Int → Int → Bool) :
    ((store.buckets granularity).filter fun bucket => select bucket.report bucket.release).isEmpty
      = (selected events store select).isEmpty :=
  accounted.isEmpty_kept sound (follows_select events granularity select)

/-! ### Rankings -/

/-- A ranking that counts buckets as a test chooses occurrences shows the chosen occurrences: it
lists the problems for which some are chosen and which the components admit. -/
lemma Accounted.rank_eq_of_follows (accounted : Accounted events store) (sound : store.Sound)
    {query : RankQuery} {choose : Problem → Occurrence → Bool}
    (follows : ∀ problem,
      Follows events query.granularity (store.countsFor query problem) (choose problem))
    {rows : List RankedProblem} (ranked : store.rank query = .ok rows) :
    rows = sortByCount (((rowsOf store.problems).filter fun problem =>
        !(chosen events store (choose problem)).isEmpty
          && query.admits (entriesOf store.componentLinks) problem).map fun problem =>
      .ofCount problem ((chosen events store (choose problem)).map Occurrence.count).sum) := by
  obtain ⟨shape, totals⟩ := rank_eq_of_ok ranked
  have listed (problem : Problem) : store.lists query problem =
      (!(chosen events store (choose problem)).isEmpty
        && query.admits (entriesOf store.componentLinks) problem) := by
    unfold lists countedFor
    rw [accounted.isEmpty_kept sound (follows problem)]
  rw [shape, ← List.filter_congr fun problem _ => listed problem]
  congr 1
  apply List.map_congr_left
  intro problem inside
  obtain ⟨member, here⟩ := List.mem_filter.1 inside
  rw [accounted.eq_sum_of_total sound (follows problem) (totals problem member here)]

/-- Whether a ranking with such releases, whose clauses allow a problem or not, counts occurrences
of a report in a release for the problem. -/
def ofProblem (store : Store) (releases : ReleaseSelection) (allowed : Problem → Bool)
    (problem : Problem) (report release : Int) : Bool :=
  (rowsOf store.reports).any (fun row => row.id = report && row.problem = some problem.id)
    && (releases.has release && allowed problem)

section
variable {granularity : Granularity} {releases : ReleaseSelection} {components : Option (List Int)}
  {clauses : List Clause} {allowed : Problem → Bool}

/-- When its clauses look at the problem only, a ranking counts buckets by their report and their
release. -/
lemma follows_of_blind (events : List Event) (components : Option (List Int))
    (blind : ∀ bucket problem, clauses.all (Clause.holds ⟨bucket, problem⟩) = allowed problem)
    (problem : Problem) :
    Follows events granularity
      (store.countsFor ⟨granularity, releases, components, clauses⟩ problem) fun occurrence =>
        store.ofProblem releases allowed problem occurrence.report occurrence.release := by
  intro occurrence stands bucket falls
  rw [← follows_select events granularity (store.ofProblem releases allowed problem) occurrence
    stands bucket falls]
  unfold countsFor RankQuery.counts ofProblem
  rw [blind bucket problem]

/-- A ranking whose clauses look at the problem only shows the selected occurrences, whatever its
granularity. -/
lemma Accounted.rank_eq (accounted : Accounted events store) (sound : store.Sound)
    (blind : ∀ bucket problem, clauses.all (Clause.holds ⟨bucket, problem⟩) = allowed problem)
    {rows : List RankedProblem}
    (ranked : store.rank ⟨granularity, releases, components, clauses⟩ = .ok rows) :
    rows = sortByCount (((rowsOf store.problems).filter fun problem =>
        !(selected events store (store.ofProblem releases allowed problem)).isEmpty
          && components.all fun ids => (entriesOf store.componentLinks).any fun link =>
            link.problem = problem.id && link.component ∈ ids).map fun problem =>
      .ofCount problem (selectedSum events store (store.ofProblem releases allowed problem))) :=
  accounted.rank_eq_of_follows sound (follows_of_blind events components blind) ranked

/-- Two rankings whose clauses look at the problem only agree at any two granularities. -/
lemma Accounted.rank_agrees (accounted : Accounted events store) (sound : store.Sound)
    (blind : ∀ bucket problem, clauses.all (Clause.holds ⟨bucket, problem⟩) = allowed problem)
    {g h : Granularity} {first second : List RankedProblem}
    (atFirst : store.rank ⟨g, releases, components, clauses⟩ = .ok first)
    (atSecond : store.rank ⟨h, releases, components, clauses⟩ = .ok second) : first = second := by
  rw [accounted.rank_eq sound blind atFirst, accounted.rank_eq sound blind atSecond]

end

/-- The sums by problem agree at any two granularities. -/
lemma Accounted.sumCounts_agrees (accounted : Accounted events store) (sound : store.Sound)
    {problems : Option (List Int)} {releases : ReleaseSelection} {g h : Granularity}
    {first second : List (Int × Int)} (atFirst : store.sumCounts problems releases g = .ok first)
    (atSecond : store.sumCounts problems releases h = .ok second) : first = second := by
  unfold sumCounts at atFirst atSecond
  by_cases empty : problems.any (·.isEmpty) = true
  · rw [if_pos empty] at atFirst atSecond
    cases atFirst
    cases atSecond
    rfl
  · rw [if_neg empty] at atFirst atSecond
    simp only [bind_eq_ok_iff, pure_eq_ok_iff] at atFirst atSecond
    obtain ⟨rows, ranked, rfl⟩ := atFirst
    obtain ⟨rows', ranked', rfl⟩ := atSecond
    -- the clause that names problems does not look at the bucket
    have same : rows = rows' := by
      cases problems with
      | none =>
        have blind (bucket : Bucket) (problem : Problem) :
            [].all (Clause.holds ⟨bucket, problem⟩) = true := rfl
        exact accounted.rank_agrees sound blind ranked ranked'
      | some ids =>
        have blind (bucket : Bucket) (problem : Problem) :
            [Clause.oneOf .reportProblem ids].all (Clause.holds ⟨bucket, problem⟩)
              = ids.any fun n =>
                  Comparison.eq.meets (Tally.compare (.exact problem.id) (.exact n)) :=
          Bool.and_true _
        exact accounted.rank_agrees sound blind ranked ranked'
    rw [same]

/-! ### Totals of an operating system -/

/-- The history sum shows the occurrences in the releases of its scope. -/
lemma Accounted.historySum_eq (accounted : Accounted events store) (sound : store.Sound)
    {opsys version : Option String} {granularity : Granularity} {n : Int}
    (read : store.historySum opsys version granularity = .ok n) :
    ∃ releases, store.scope opsys version = .ok releases ∧
      n = selectedSum events store fun _ release => releases.has release := by
  obtain ⟨releases, scope, total⟩ := exists_scope_of_historySum read
  exact ⟨releases, scope, accounted.eq_selectedSum_of_total sound total⟩

/-- The counts by component show the occurrences in the releases of their scope. -/
lemma Accounted.componentCounts_eq (accounted : Accounted events store) (sound : store.Sound)
    {opsys version : Option String} {granularity : Granularity} {rows : List ComponentCount}
    (read : store.componentCounts opsys version granularity = .ok rows) :
    ∃ releases, store.scope opsys version = .ok releases ∧
      rows = (((rowsOf store.components).filter fun component =>
        !(selected events store (store.ofComponent releases component)).isEmpty).map
          fun component => ⟨component.id, component.name,
            selectedSum events store (store.ofComponent releases component)⟩).mergeSort
              ComponentCount.countLE := by
  obtain ⟨releases, scope, -⟩ := bind_eq_ok_iff.1 read
  rw [componentCounts_of_scope scope (sound.tables _) (sound.tables _) (sound.tables _)] at read
  split at read
  · cases read
  obtain ⟨shown, read, sorted⟩ := map_eq_ok_iff.1 read
  obtain ⟨shape, exacts⟩ := read_totals
    (fun (component : Component) n => ComponentCount.mk component.id component.name n) read
  -- the same components have buckets as have selected occurrences
  have listed (component : Component) :
      (!(store.componentBuckets granularity releases component).isEmpty)
        = !(selected events store (store.ofComponent releases component)).isEmpty :=
    congrArg _
      (accounted.isEmpty_buckets_iff sound granularity (store.ofComponent releases component))
  refine ⟨releases, scope, ?_⟩
  rw [← sorted, shape, ← List.filter_congr fun component _ => listed component]
  congr 1
  apply List.map_congr_left
  intro component inside
  rw [accounted.eq_selectedSum_of_total sound (exacts component inside)]

/-! ### Every granularity shows the same totals -/

/-- After any run of commands that enter, link, record or remove rows, totals over all of time are
the same at any two granularities at which they can be read: rankings without clauses for any
choice of releases and components, sums by problem for any choice of problems, and the history sum
and the counts by component of any operating system and version. -/
theorem totals_agree_at_granularities (commands : List Command)
    (keeps : ∀ command ∈ commands, command.keepsTables = true) (g h : Granularity) :
    (∀ releases components first second,
      (migrated.run commands).rank ⟨g, releases, components, []⟩ = .ok first →
      (migrated.run commands).rank ⟨h, releases, components, []⟩ = .ok second →
        first = second) ∧
    (∀ problems releases first second,
      (migrated.run commands).sumCounts problems releases g = .ok first →
      (migrated.run commands).sumCounts problems releases h = .ok second → first = second) ∧
    (∀ opsys version first second,
      (migrated.run commands).historySum opsys version g = .ok first →
      (migrated.run commands).historySum opsys version h = .ok second → first = second) ∧
    (∀ opsys version first second,
      (migrated.run commands).componentCounts opsys version g = .ok first →
      (migrated.run commands).componentCounts opsys version h = .ok second →
        first = second) := by
  have accounted := accounted_run commands keeps
  have sound := sound_migrated.run keeps
  refine ⟨?_, ?_, ?_, ?_⟩
  · intro releases components first second atFirst atSecond
    have blind (bucket : Bucket) (problem : Problem) :
        [].all (Clause.holds ⟨bucket, problem⟩) = true := rfl
    exact accounted.rank_agrees sound blind atFirst atSecond
  · intro problems releases first second atFirst atSecond
    exact accounted.sumCounts_agrees sound atFirst atSecond
  · intro opsys version first second atFirst atSecond
    obtain ⟨releases, scope, sum⟩ := accounted.historySum_eq sound atFirst
    obtain ⟨releases', scope', sum'⟩ := accounted.historySum_eq sound atSecond
    rw [scope] at scope'
    cases scope'
    rw [sum, sum']
  · intro opsys version first second atFirst atSecond
    obtain ⟨releases, scope, rows⟩ := accounted.componentCounts_eq sound atFirst
    obtain ⟨releases', scope', rows'⟩ := accounted.componentCounts_eq sound atSecond
    rw [scope] at scope'
    cases scope'
    rw [rows, rows']

/-- Occurrences of one week in two months, of a report under a reused id, add up to the same at
every granularity. -/
theorem totals_of_split_week :
    (migrated.run reusedId).historySum none none .weekly = .ok 7 ∧
      (∀ n, (migrated.run reusedId).historySum none none .monthly = .ok n → n = 7) ∧
      ∀ rows, (migrated.run reusedId).rank ⟨.monthly, .all, none, []⟩ = .ok rows →
        rows = sortByCount [.ofCount ⟨1, newYearsEve, newYearsDay⟩ 7] := by
  have weeks : (migrated.run reusedId).historySum none none .weekly = .ok 7 := rfl
  have ranked : (migrated.run reusedId).rank ⟨.weekly, .all, none, []⟩
      = .ok (sortByCount [.ofCount ⟨1, newYearsEve, newYearsDay⟩ 7]) := rfl
  have agree := totals_agree_at_granularities reusedId (by decide) .weekly .monthly
  refine ⟨weeks, fun n months => ?_, fun rows months => ?_⟩
  · exact (agree.2.2.1 none none 7 n weeks months).symm
  · exact (agree.1 .all none _ rows ranked months).symm

end Store

end CrashTriage
