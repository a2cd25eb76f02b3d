import CrashTriage.Proofs.Statements
import CrashTriage.Proofs.Tables

/-!
# What recording occurrences does to the store

To record occurrences takes five statements. This file says when each of them succeeds and what it
leaves, and sums up what a whole record does: it raises one bucket at every granularity by the
recorded count, and widens the ranges of the report and of its problem.
-/

namespace CrashTriage

/-! ### Tallies and ledgers of buckets -/

/-- A tally that may be absent after more occurrences. -/
def Tally.raise (count : Int) : Option Tally → Tally
  | none => .exact count
  | some tally => tally.add count

/-- A positive tally stays positive when occurrences are added. -/
lemma Tally.isPositive_add {tally : Tally} {count : Int} (h : tally.isPositive = true)
    (positive : 0 < count) : (tally.add count).isPositive = true := by
  cases tally with
  | exact n =>
    simp only [add]
    split
    · simp only [isPositive, decide_eq_true_eq] at h ⊢
      omega
    · rfl
  | approximate x => rfl

/-- More occurrences do not change the key of a bucket. -/
lemma Bucket.key_grow (count : Int) (bucket : Bucket) :
    Keyed.key (bucket.grow count) = Keyed.key bucket := rfl

/-- A widened report keeps its id. -/
lemma Report.id_widen (date : Date) (count : Int) (report : Report) :
    Identified.id (report.widen date count) = Identified.id report := rfl

/-- A widened problem keeps its id. -/
lemma Problem.id_widen (date : Date) (problem : Problem) :
    Identified.id (problem.widen date) = Identified.id problem := rfl

namespace Ledger

/-- The buckets after more occurrences in the one with a given key, which is entered if it is
absent. -/
def raise (table : Ledger Bucket) (key : Int × Int × Date) (count : Int) : Ledger Bucket :=
  if h : table.contains key = false then
    table.insert ⟨key.1, key.2.1, key.2.2, .exact count⟩ h
  else table.update key (Bucket.grow count) (Bucket.key_grow count)

/-- The tally of the bucket with a given key. -/
def tally? (table : Ledger Bucket) (key : Int × Int × Date) : Option Tally :=
  (table.find? key).map Bucket.count

variable {table : Ledger Bucket} {key : Int × Int × Date} {count : Int}

/-- To raise a bucket changes its tally and no other. -/
lemma tally?_raise {k : Int × Int × Date} :
    (table.raise key count).tally? k =
      if k = key then some (Tally.raise count (table.tally? key)) else table.tally? k := by
  unfold tally? raise
  split
  · rename_i fresh
    rw [find?_insert]
    by_cases same : k = key
    · simp [same, find?_eq_none_iff.2 fresh, Tally.raise]
    · simp [same]
  · rename_i old
    rw [find?_update]
    by_cases same : k = key
    · subst same
      cases found : table.find? k with
      | none => exact absurd (find?_eq_none_iff.1 found) old
      | some bucket => simp [Bucket.grow, Tally.raise]
    · simp [same]

/-- A bucket of the raised ledger is the raised one or has not changed. -/
lemma mem_raise {bucket : Bucket} (h : bucket ∈ (table.raise key count).rows) :
    Keyed.key bucket = key ∨ bucket ∈ table.rows := by
  unfold raise at h
  split at h
  · rcases List.mem_append.1 h with old | new
    · exact .inr old
    · left
      rw [List.mem_singleton.1 new]
      rfl
  · obtain ⟨old, member, shape⟩ := List.mem_map.1 h
    split at shape
    · rename_i same
      left
      rw [← shape]
      exact same
    · right
      rw [← shape]
      exact member

/-- The tally of a bucket is what its key leads to. -/
lemma tally?_key {bucket : Bucket} (member : bucket ∈ table.rows) :
    table.tally? (Keyed.key bucket) = some bucket.count := by
  unfold tally?
  rw [find?_eq_some_iff.2 ⟨member, rfl⟩]
  rfl

/-- A key has a tally when some bucket has the key. -/
lemma tally?_eq_some_iff {tally : Tally} :
    table.tally? key = some tally ↔
      ∃ bucket ∈ table.rows, Keyed.key bucket = key ∧ bucket.count = tally := by
  unfold tally?
  rw [Option.map_eq_some_iff]
  simp only [find?_eq_some_iff, and_assoc]

end Ledger

namespace Store

open StoreM

variable {store after : Store} {granularity : Granularity} {report release count : Int}
  {date : Date}

/-- The tally of a bucket, if its table has one under the key. -/
def tally? (store : Store) (granularity : Granularity) (key : Int × Int × Date) : Option Tally :=
  (store.history.get granularity).bind fun table => table.tally? key

/-- A key has a tally when some bucket of the granularity has the key. -/
lemma tally?_eq_some_iff {key : Int × Int × Date} {tally : Tally} :
    store.tally? granularity key = some tally ↔
      ∃ bucket ∈ store.buckets granularity, Keyed.key bucket = key ∧ bucket.count = tally := by
  unfold tally? buckets
  cases store.history.get granularity with
  | none => simp [entriesOf]
  | some table => exact Ledger.tally?_eq_some_iff

/-- The buckets of a granularity have different keys. -/
lemma pairwise_buckets (store : Store) (granularity : Granularity) :
    (store.buckets granularity).Pairwise fun a b => Keyed.key a ≠ Keyed.key b :=
  pairwise_entriesOf (store.history.get granularity)

/-- Which tables are present does not depend on what is prepared. -/
@[simp] lemma has_prepared (prepared : List Granularity) (table : TableName) :
    { store with prepared := prepared }.has table = store.has table := by
  cases table <;> rfl

/-! ### The five statements -/

/-- A statement is prepared when its tables are present, and once for all. -/
lemma prepareBucket_yields_iff {u : Unit} :
    (prepareBucket granularity).Yields store u after ↔
      (granularity ∈ store.prepared ∧ store = after) ∨
        (granularity ∉ store.prepared ∧ (store.history.get granularity).isSome = true ∧
          (∀ parent ∈ (TableName.history granularity).parents, store.has parent = true) ∧
          { store with prepared := granularity :: store.prepared } = after) := by
  unfold prepareBucket
  rw [statement_yields_iff]
  by_cases prepared : granularity ∈ store.prepared
  · simp [prepared, pure_eq_ok_iff]
  · simp only [if_neg prepared, bind_eq_ok_iff, present_eq_ok_iff, requireParents_eq_ok_iff,
      pure_eq_ok_iff, Option.isSome_iff_exists]
    simp [prepared]

/-- Occurrences are counted in the bucket that holds their date: either it is there or its report
and its release are, and its count stays positive. -/
lemma countInBucket_yields_iff {u : Unit} :
    (countInBucket granularity report release date count).Yields store u after ↔
      ∃ start table, granularity.bucketStart? date = some start ∧
        store.history.get granularity = some table ∧
        (∀ parent ∈ (TableName.history granularity).parents, store.has parent = true) ∧
        0 < count ∧
        (table.contains (report, release, start) = true ∨
          (refers store.reports report = true ∧ refers store.releases release = true)) ∧
        (∀ tally, (table.raise (report, release, start) count).tally? (report, release, start)
          = some tally → tally.isPositive = true) ∧
        { store with
          history := store.history.set granularity
            (some (table.raise (report, release, start) count)) } = after := by
  unfold countInBucket
  rw [statement_yields_iff]
  simp only [bind_eq_ok_iff, inRange_eq_ok_iff, present_eq_ok_iff, requireParents_eq_ok_iff,
    unless_eq_ok_iff]
  constructor
  · rintro ⟨start, inside, table, found, _, parents, positive, h⟩
    have above : 0 < count := by simpa [Tally.isPositive] using positive
    refine ⟨start, table, inside, found, parents, above, ?_⟩
    split at h
    · rename_i unknown
      have fresh : table.contains (report, release, start) = false := unknown
      rw [unless_eq_ok_iff, pure_eq_ok_iff, Prod.mk.injEq] at h
      refine ⟨.inr (by simpa using h.1), fun tally raised => ?_, ?_⟩
      · rw [Ledger.tally?_raise, if_pos rfl, Ledger.tally?,
          Ledger.find?_eq_none_iff.2 fresh] at raised
        cases raised
        simpa [Tally.isPositive, Tally.raise] using above
      · rw [← h.2.2, Ledger.raise, dif_pos fresh]
    · rename_i old
      rw [unless_eq_ok_iff, pure_eq_ok_iff, Prod.mk.injEq] at h
      have shape : table.raise (report, release, start) count =
          table.update (report, release, start) (Bucket.grow count) (Bucket.key_grow count) :=
        dif_neg old
      refine ⟨.inl (eq_true_of_ne_false old), fun tally raised => ?_, ?_⟩
      · rw [shape, Ledger.tally?, Option.map_eq_some_iff] at raised
        obtain ⟨bucket, reached, rfl⟩ := raised
        have checked := h.1
        rw [Bucket.key_eq, reached] at checked
        simpa using checked
      · rw [← h.2.2, shape]
        rfl
  · rintro ⟨start, table, inside, found, parents, above, allowed, positive, rfl⟩
    refine ⟨start, inside, table, found, (), parents, by simpa [Tally.isPositive] using above, ?_⟩
    by_cases fresh : table.contains (report, release, start) = false
    · have both : refers store.reports report = true ∧ refers store.releases release = true :=
        allowed.resolve_left (by simp [fresh])
      rw [dif_pos (show table.contains (Keyed.key (⟨report, release, start, .exact count⟩ : Bucket))
        = false from fresh), unless_eq_ok_iff, pure_eq_ok_iff, Ledger.raise, dif_pos fresh]
      exact ⟨by simp [both], rfl⟩
    · have shape : table.raise (report, release, start) count =
          table.update (report, release, start) (Bucket.grow count) (Bucket.key_grow count) :=
        dif_neg fresh
      rw [dif_neg (show ¬ table.contains
        (Keyed.key (⟨report, release, start, .exact count⟩ : Bucket)) = false from fresh),
        unless_eq_ok_iff, pure_eq_ok_iff, shape]
      refine ⟨?_, rfl⟩
      intro failing
      obtain ⟨bucket, reached, negative⟩ := (Option.any_eq_true _ _).1 failing
      have tallied : (table.raise (report, release, start) count).tally? (report, release, start)
          = some bucket.count := by
        rw [shape, Ledger.tally?, Option.map_eq_some_iff]
        exact ⟨bucket, reached, rfl⟩
      simp [positive _ tallied] at negative

/-- To enter occurrences in a bucket is to count them there by a statement that is prepared. -/
lemma enterBucket_yields_iff {u : Unit} :
    (enterBucket granularity report release date count).Yields store u after ↔
      ∃ start table, granularity.bucketStart? date = some start ∧
        store.history.get granularity = some table ∧
        (∀ parent ∈ (TableName.history granularity).parents, store.has parent = true) ∧
        0 < count ∧
        (table.contains (report, release, start) = true ∨
          (refers store.reports report = true ∧ refers store.releases release = true)) ∧
        (∀ tally, (table.raise (report, release, start) count).tally? (report, release, start)
          = some tally → tally.isPositive = true) ∧
        { store with
          prepared := if granularity ∈ store.prepared then store.prepared
            else granularity :: store.prepared
          history := store.history.set granularity
            (some (table.raise (report, release, start) count)) } = after := by
  unfold enterBucket
  simp only [bind_yields_iff, prepareBucket_yields_iff, countInBucket_yields_iff]
  by_cases prepared : granularity ∈ store.prepared
  · simp [prepared]
  · constructor
    · rintro ⟨_, middle, ⟨known, _⟩ | ⟨_, _, _, rfl⟩, h⟩
      · exact absurd known prepared
      · simpa [prepared] using h
    · rintro ⟨start, table, inside, found, parents, rest⟩
      refine ⟨(), _, .inr ⟨prepared, by rw [found]; rfl, parents, rfl⟩, start, table, inside, found,
        parents, ?_⟩
      simpa [prepared] using rest

/-- The report of occurrences is widened. -/
lemma widenReport_yields_iff {u : Unit} :
    (widenReport report date count).Yields store u after ↔
      ∃ reports, store.reports = some reports ∧
        { store with
          reports := some (reports.update report (Report.widen date count)
            (Report.id_widen date count)) } = after := by
  unfold widenReport
  rw [statement_yields_iff]
  simp only [bind_eq_ok_iff, present_eq_ok_iff, pure_eq_ok_iff]
  simp

/-- The problem of a report, when the report is there and has one, is widened, unless its first
occurrence came to be written after its last. -/
lemma widenProblem_yields_iff {u : Unit} :
    (widenProblem report date).Yields store u after ↔
      ∃ problems reports, store.problems = some problems ∧ store.reports = some reports ∧
        (((reports.find? report).bind Report.problem = none ∧ store = after) ∨
          ∃ problem, (reports.find? report).bind Report.problem = some problem ∧
            (∀ row, (problems.update problem (Problem.widen date) (Problem.id_widen date)).find?
              problem = some row → row.last.isWrittenBefore row.first = false) ∧
            { store with
              problems := some (problems.update problem (Problem.widen date)
                (Problem.id_widen date)) } = after) := by
  unfold widenProblem
  rw [statement_yields_iff]
  simp only [bind_eq_ok_iff, present_eq_ok_iff]
  constructor
  · rintro ⟨problems, foundProblems, reports, foundReports, h⟩
    refine ⟨problems, reports, foundProblems, foundReports, ?_⟩
    split at h
    · rename_i none
      exact .inl ⟨none, (Prod.mk.inj (pure_eq_ok_iff.1 h)).2⟩
    · rename_i problem some
      rw [unless_eq_ok_iff, pure_eq_ok_iff, Prod.mk.injEq] at h
      refine .inr ⟨problem, some, fun row reached => ?_, h.2.2⟩
      have ordered := h.1
      rw [reached] at ordered
      simpa using ordered
  · rintro ⟨problems, reports, foundProblems, foundReports, h⟩
    refine ⟨problems, foundProblems, reports, foundReports, ?_⟩
    rcases h with ⟨none, rfl⟩ | ⟨problem, some, ordered, rfl⟩
    · rw [none]
      rfl
    · rw [some]
      refine unless_eq_ok_iff.2 ⟨?_, rfl⟩
      intro failing
      obtain ⟨row, reached, reversed⟩ := (Option.any_eq_true _ _).1 failing
      simp [ordered row reached] at reversed

/-! ### The whole record -/

/-- A count that is not positive records nothing, and succeeds. -/
lemma record_of_nonpos (h : count ≤ 0) (store : Store) :
    record report release date count store = (.ok (), store) := by
  unfold record
  rw [if_pos h]
  rfl

/-- A record that fails changes no table. -/
lemma atomic_record (report release : Int) (date : Date) (count : Int) :
    (record report release date count).Atomic := by
  unfold record
  split
  · intro store failure failed
    cases failed
  · exact atomic_transaction _

/-- A record succeeds when its five statements do, one after the other. -/
lemma record_yields_iff (h : 0 < count) {u : Unit} :
    (record report release date count).Yields store u after ↔
      ∃ first second third fourth,
        (enterBucket .daily report release date count).Yields store () first ∧
        (enterBucket .weekly report release date count).Yields first () second ∧
        (enterBucket .monthly report release date count).Yields second () third ∧
        (widenReport report date count).Yields third () fourth ∧
        (widenProblem report date).Yields fourth () after := by
  unfold record
  rw [if_neg (by omega), transaction_yields_iff]
  simp only [bind_yields_iff]
  constructor
  · rintro ⟨_, first, h₁, _, second, h₂, _, third, h₃, _, fourth, h₄, h₅⟩
    exact ⟨first, second, third, fourth, h₁, h₂, h₃, h₄, h₅⟩
  · rintro ⟨first, second, third, fourth, h₁, h₂, h₃, h₄, h₅⟩
    exact ⟨(), first, h₁, (), second, h₂, (), third, h₃, (), fourth, h₄, h₅⟩

/-- A record changes problems, reports and buckets, and what is prepared, and nothing else. -/
lemma record_frame {u : Unit} (yields : (record report release date count).Yields store u after) :
    after = { store with
      prepared := after.prepared
      problems := after.problems
      reports := after.reports
      history := after.history } := by
  by_cases positive : 0 < count
  · obtain ⟨first, second, third, fourth, daily, weekly, monthly, widened, last⟩ :=
      (record_yields_iff positive).1 yields
    obtain ⟨day, days, -, -, -, -, -, -, rfl⟩ := enterBucket_yields_iff.1 daily
    obtain ⟨week, weeks, -, -, -, -, -, -, rfl⟩ := enterBucket_yields_iff.1 weekly
    obtain ⟨month, months, -, -, -, -, -, -, rfl⟩ := enterBucket_yields_iff.1 monthly
    obtain ⟨table, -, rfl⟩ := widenReport_yields_iff.1 widened
    obtain ⟨problems, reports, -, -, ⟨-, rfl⟩ | ⟨problem, -, -, rfl⟩⟩ :=
      widenProblem_yields_iff.1 last
    · rfl
    · rfl
  · have same : store = after := by
      rw [← yields.2, record_of_nonpos (Int.not_lt.1 positive)]
    rw [← same]

/-- To enter occurrences in a bucket raises its tally, no other one, and changes no report. -/
lemma enterBucket_effect {u : Unit}
    (yields : (enterBucket granularity report release date count).Yields store u after) :
    after.reports = store.reports ∧
      ∃ start, granularity.bucketStart? date = some start ∧ ∀ h key, after.tally? h key =
        if h = granularity ∧ key = (report, release, start) then
          some (Tally.raise count (store.tally? h key))
        else store.tally? h key := by
  obtain ⟨start, table, inside, found, -, -, -, -, rfl⟩ := enterBucket_yields_iff.1 yields
  refine ⟨rfl, start, inside, fun h key => ?_⟩
  unfold tally?
  rw [History.get_set]
  by_cases same : h = granularity
  · subst same
    rw [if_pos rfl, found, Option.bind_some, Option.bind_some, Ledger.tally?_raise]
    by_cases reached : key = (report, release, start)
    · rw [if_pos reached, if_pos ⟨rfl, reached⟩, reached]
    · rw [if_neg reached, if_neg fun both => reached both.2]
  · rw [if_neg same, if_neg fun both => same both.1]

/-- A record raises one bucket at every granularity and widens its report. -/
lemma record_effect (positive : 0 < count) {u : Unit}
    (yields : (record report release date count).Yields store u after) :
    (∀ granularity : Granularity, ∃ start, granularity.bucketStart? date = some start ∧
      ∀ key, after.tally? granularity key =
        if key = (report, release, start) then
          some (Tally.raise count (store.tally? granularity key))
        else store.tally? granularity key) ∧
      ∃ table, store.reports = some table ∧
        after.reports = some (table.update report (Report.widen date count)
          (Report.id_widen date count)) := by
  obtain ⟨first, second, third, fourth, daily, weekly, monthly, report', problem'⟩ :=
    (record_yields_iff positive).1 yields
  obtain ⟨reports₁, day, atDay, tally₁⟩ := enterBucket_effect daily
  obtain ⟨reports₂, week, atWeek, tally₂⟩ := enterBucket_effect weekly
  obtain ⟨reports₃, month, atMonth, tally₃⟩ := enterBucket_effect monthly
  obtain ⟨table, found, rfl⟩ := widenReport_yields_iff.1 report'
  -- the last statement changes problems only
  have last : after.history = third.history ∧ after.reports = some (table.update report
      (Report.widen date count) (Report.id_widen date count)) := by
    obtain ⟨-, -, -, -, ⟨-, rfl⟩ | ⟨-, -, -, rfl⟩⟩ := widenProblem_yields_iff.1 problem'
    · exact ⟨rfl, rfl⟩
    · exact ⟨rfl, rfl⟩
  have tallies (g : Granularity) (key : Int × Int × Date) :
      after.tally? g key = third.tally? g key := by
    unfold tally?
    rw [last.1]
  refine ⟨fun granularity => ?_, table, ?_, last.2⟩
  · cases granularity with
    | daily => exact ⟨day, atDay, fun key => by simp [tallies, tally₃, tally₂, tally₁]⟩
    | weekly => exact ⟨week, atWeek, fun key => by simp [tallies, tally₃, tally₂, tally₁]⟩
    | monthly => exact ⟨month, atMonth, fun key => by simp [tallies, tally₃, tally₂, tally₁]⟩
  · rw [← reports₁, ← reports₂, ← reports₃, found]

/-- The problem of the report with a given id, if there is such a report and it has one. -/
def problemOf? (store : Store) (report : Int) : Option Int :=
  (store.reports.bind (·.find? report)).bind Report.problem

/-- Occurrences that are entered in a bucket leave the problems alone. -/
lemma problems_of_enterBucket {u : Unit}
    (yields : (enterBucket granularity report release date count).Yields store u after) :
    after.problems = store.problems := by
  obtain ⟨start, table, -, -, -, -, -, -, rfl⟩ := enterBucket_yields_iff.1 yields
  rfl

/-- A record widens the problem of its report, if it has one, and no other problem. -/
lemma record_problems (positive : 0 < count) {u : Unit}
    (yields : (record report release date count).Yields store u after) :
    rowsOf after.problems = (rowsOf store.problems).map fun row =>
      if store.problemOf? report = some row.id then row.widen date else row := by
  obtain ⟨first, second, third, fourth, daily, weekly, monthly, widened, last⟩ :=
    (record_yields_iff positive).1 yields
  have reports : third.reports = store.reports := by
    rw [(enterBucket_effect monthly).1, (enterBucket_effect weekly).1, (enterBucket_effect daily).1]
  have problems : third.problems = store.problems := by
    rw [problems_of_enterBucket monthly, problems_of_enterBucket weekly,
      problems_of_enterBucket daily]
  obtain ⟨table, found, rfl⟩ := widenReport_yields_iff.1 widened
  -- the report has been widened by now and belongs to the problem it belonged to
  have belongs : ((table.update report (Report.widen date count)
      (Report.id_widen date count)).find? report).bind Report.problem
        = store.problemOf? report := by
    rw [problemOf?, ← reports, found, Option.bind_some, Register.find?_update, if_pos rfl]
    cases table.find? report <;> rfl
  obtain ⟨register, widenedReports, there, current, choice⟩ := widenProblem_yields_iff.1 last
  rw [← Option.some.inj current, belongs] at choice
  have before : store.problems = some register := problems.symm.trans there
  rcases choice with ⟨none, rfl⟩ | ⟨problem, belongsTo, -, rfl⟩
  · simp [none, problems]
  · rw [before, belongsTo]
    refine List.map_congr_left fun row _ => ?_
    simp only [Option.some.injEq, eq_comm (a := problem)]
    rfl

end Store

end CrashTriage
