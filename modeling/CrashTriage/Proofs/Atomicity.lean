import CrashTriage.Proofs.BucketStart
import CrashTriage.Proofs.Soundness

/-!
# Records are all or nothing

A record that fails leaves every table as it was, however many of its statements had been carried
out. In a sound store it succeeds exactly when its report and its release are present and the week
of its date begins on a date of the calendar's range.
-/

namespace CrashTriage

namespace StoreM

variable {α β : Type} {store middle : Store}

/-- A statement fails as its body does. -/
lemma statement_fst_of_error {body : Store → Except Failure (α × Store)} {failure : Failure}
    (failed : body store = .error failure) : (statement body store).1 = .error failure := by
  unfold statement
  rw [failed]

/-- A transaction has the outcome of its body. -/
lemma transaction_fst (body : StoreM α) (store : Store) :
    (transaction body store).1 = (body store).1 := by
  unfold transaction
  rcases body store with ⟨failure | a, changed⟩ <;> rfl

/-- A sequence fails when its first part does. -/
lemma bind_fst_of_error {x : StoreM α} {f : α → StoreM β} {failure : Failure}
    (failed : (x store).1 = .error failure) : ((x >>= f) store).1 = .error failure := by
  rw [bind_apply]
  rcases result : x store with ⟨cause | a, changed⟩
  · rw [result] at failed
    exact congrArg _ (Except.error.inj failed)
  · rw [result] at failed
    cases failed

/-- A sequence goes on where its first part ends. -/
lemma bind_of_yields {x : StoreM α} {f : α → StoreM β} {a : α} (yields : x.Yields store a middle) :
    (x >>= f) store = f a middle := by
  obtain ⟨result, last⟩ := yields
  rw [bind_apply]
  rcases ran : x store with ⟨cause | b, changed⟩ <;> rw [ran] at result last
  · cases result
  · cases result
    cases last
    rfl

end StoreM

namespace Store

open StoreM

variable {store : Store} {granularity : Granularity} {report release count : Int} {date : Date}

/-! ### Occurrences in one bucket of a sound store -/

/-- In a sound store every statement can be prepared. -/
lemma Sound.exists_prepareBucket (sound : store.Sound) (granularity : Granularity) :
    ∃ prepared, (prepareBucket granularity).Yields store ()
      { store with prepared := prepared } := by
  by_cases known : granularity ∈ store.prepared
  · exact ⟨store.prepared, prepareBucket_yields_iff.2 (.inl ⟨known, rfl⟩)⟩
  · exact ⟨granularity :: store.prepared, prepareBucket_yields_iff.2 (.inr ⟨known,
      sound.tables (.history granularity), fun parent _ => sound.tables parent, rfl⟩)⟩

/-- In a sound store every granularity has its ledger of buckets. -/
lemma Sound.exists_buckets (sound : store.Sound) (granularity : Granularity) :
    ∃ table, store.history.get granularity = some table :=
  Option.isSome_iff_exists.1 (sound.tables (.history granularity))

/-- Occurrences are refused when no date starts their bucket. -/
lemma enterBucket_of_outside (sound : store.Sound)
    (outside : granularity.bucketStart? date = none) :
    (enterBucket granularity report release date count store).1 = .error .dateOutOfRange := by
  obtain ⟨prepared, yields⟩ := sound.exists_prepareBucket granularity
  unfold enterBucket
  rw [bind_of_yields yields]
  refine statement_fst_of_error ?_
  simp [outside, inRange, bind, Except.bind]

/-- Occurrences are refused when their report or their release is absent. -/
lemma enterBucket_of_absent (sound : store.Sound) (positive : 0 < count) {start : Date}
    (inside : granularity.bucketStart? date = some start)
    (absent : ¬ (refers store.reports report = true ∧ refers store.releases release = true)) :
    (enterBucket granularity report release date count store).1 = .error .foreignKey := by
  obtain ⟨prepared, yields⟩ := sound.exists_prepareBucket granularity
  obtain ⟨table, found⟩ := sound.exists_buckets granularity
  unfold enterBucket
  rw [bind_of_yields yields]
  refine statement_fst_of_error ?_
  -- a bucket under the key would refer to both
  have fresh : table.contains (report, release, start) = false := by
    rw [Bool.eq_false_iff]
    intro known
    obtain ⟨row, member, same⟩ := Ledger.contains_iff.1 known
    obtain ⟨rfl, rfl, -⟩ := same
    exact absent (sound.bucket granularity row (by rw [buckets, found]; exact member))
  have parents := (sound.prepared prepared).requireParents_eq (.history granularity)
  have unreferred : (!refers store.reports report || !refers store.releases release) = true := by
    cases hr : refers store.reports report with
    | false => rfl
    | true => simpa [hr] using absent
  simp [inside, inRange, found, present, parents, fresh, unreferred, positive, Tally.isPositive,
    bind, Except.bind, throw, throwThe, MonadExceptOf.throw]

/-- Occurrences are entered when their bucket has a start and their report and release are
present; what they refer to stays present. -/
lemma exists_enterBucket (sound : store.Sound) (positive : 0 < count) {start : Date}
    (inside : granularity.bucketStart? date = some start)
    (ends : refers store.reports report = true ∧ refers store.releases release = true) :
    ∃ after, (enterBucket granularity report release date count).Yields store () after ∧
      after.Sound ∧ refers after.reports report = true ∧ refers after.releases release = true := by
  obtain ⟨table, found⟩ := sound.exists_buckets granularity
  have raised (tally : Tally) (h : (table.raise (report, release, start) count).tally?
      (report, release, start) = some tally) : tally.isPositive = true := by
    rw [Ledger.tally?_raise, if_pos rfl] at h
    cases old : table.tally? (report, release, start) with
    | none =>
      rw [old] at h
      cases h
      simpa [Tally.raise, Tally.isPositive] using positive
    | some before =>
      rw [old] at h
      cases h
      obtain ⟨row, member, -, rfl⟩ := Ledger.tally?_eq_some_iff.1 old
      refine Tally.isPositive_add (sound.positive granularity row ?_) positive
      rw [buckets, found]
      exact member
  have yields := (enterBucket_yields_iff (u := ())).2 ⟨start, table, inside, found,
    fun parent _ => sound.tables parent, positive, .inr ends, raised, rfl⟩
  refine ⟨_, yields, ?_, ends⟩
  rw [← yields.2]
  exact enterBucket_keeps_sound granularity report release date count store sound

/-- In a sound store a report is widened. -/
lemma Sound.exists_widenReport (sound : store.Sound) (report : Int) (date : Date) (count : Int) :
    ∃ after, (widenReport report date count).Yields store () after ∧ after.Sound := by
  obtain ⟨table, found⟩ := Option.isSome_iff_exists.1 (sound.tables .reports)
  have yields := (widenReport_yields_iff (u := ())).2
    ⟨table, found, Eq.refl { store with
      reports := some (table.update report (Report.widen date count)
        (Report.id_widen date count)) }⟩
  refine ⟨_, yields, ?_⟩
  rw [← yields.2]
  exact widenReport_keeps_sound report date count store sound

/-- A range that is in order stays in order when it is widened. -/
lemma ordered_widen {problem : Problem} (date : Date)
    (ordered : problem.last.isWrittenBefore problem.first = false) :
    (problem.widen date).last.isWrittenBefore (problem.widen date).first = false := by
  simp only [Problem.widen, Date.writtenMin, Date.writtenMax]
  by_cases earlier : date.isWrittenBefore problem.first = true
  · by_cases later : problem.last.isWrittenBefore date = true
    · rw [if_pos earlier, if_pos later]
      exact textBefore_irrefl date.text
    · rw [if_pos earlier, if_neg later]
      exact Bool.eq_false_iff.2 later
  · by_cases later : problem.last.isWrittenBefore date = true
    · rw [if_neg earlier, if_pos later]
      exact Bool.eq_false_iff.2 earlier
    · rw [if_neg earlier, if_neg later]
      exact ordered

/-- In a sound store the problem of a report is widened. -/
lemma Sound.exists_widenProblem (sound : store.Sound) (report : Int) (date : Date) :
    ∃ after, (widenProblem report date).Yields store () after := by
  obtain ⟨problems, foundProblems⟩ := Option.isSome_iff_exists.1 (sound.tables .problems)
  obtain ⟨reports, foundReports⟩ := Option.isSome_iff_exists.1 (sound.tables .reports)
  cases problem : (reports.find? report).bind Report.problem with
  | none => exact ⟨store, widenProblem_yields_iff.2
      ⟨problems, reports, foundProblems, foundReports, .inl ⟨problem, rfl⟩⟩⟩
  | some id =>
    refine ⟨_, widenProblem_yields_iff.2
      ⟨problems, reports, foundProblems, foundReports, .inr ⟨id, problem, ?_, rfl⟩⟩⟩
    intro row reached
    rw [Register.find?_update, if_pos rfl, Option.map_eq_some_iff] at reached
    obtain ⟨old, before, rfl⟩ := reached
    refine ordered_widen date (sound.ordered old ?_)
    rw [foundProblems]
    exact (Register.find?_eq_some_iff.1 before).1

/-! ### The outcome of a record -/

/-- What becomes of a record of a positive count in a sound store: it is refused when its report or
its release is absent, fails when no date starts its week, and succeeds otherwise. -/
lemma record_outcome (sound : store.Sound) (positive : 0 < count) :
    (record report release date count store).1 =
      if refers store.reports report = true ∧ refers store.releases release = true then
        if (Granularity.weekly.bucketStart? date).isSome then .ok () else .error .dateOutOfRange
      else .error .foreignKey := by
  unfold record
  rw [if_neg (by omega), transaction_fst]
  split
  · rename_i ends
    obtain ⟨first, daily, sound₁, ends₁⟩ := exists_enterBucket sound positive
      (Granularity.bucketStart?_daily date) ends
    rw [bind_of_yields daily]
    cases week : Granularity.weekly.bucketStart? date with
    | none => exact bind_fst_of_error (enterBucket_of_outside sound₁ week)
    | some monday =>
      obtain ⟨second, weekly, sound₂, ends₂⟩ := exists_enterBucket sound₁ positive week ends₁
      obtain ⟨start, month⟩ := Granularity.exists_bucketStart?_monthly date
      obtain ⟨third, monthly, sound₃, -⟩ := exists_enterBucket sound₂ positive month ends₂
      obtain ⟨fourth, widened, sound₄⟩ := sound₃.exists_widenReport report date count
      obtain ⟨after, last⟩ := sound₄.exists_widenProblem report date
      rw [bind_of_yields weekly, bind_of_yields monthly, bind_of_yields widened]
      exact last.1
  · rename_i absent
    exact bind_fst_of_error
      (enterBucket_of_absent sound positive (Granularity.bucketStart?_daily date) absent)

/-- A record that fails leaves every table as it was before, whichever of its statements failed. A
count that is not positive changes nothing and succeeds. In a store that commands have led to from
the migrated one, a record of a positive count succeeds exactly when its report and its release are
present and the Monday of the date's week is a date; no condition on rows can refuse it. -/
theorem record_all_or_nothing (report release : Int) (date : Date) (count : Int) :
    (∀ store failure, (record report release date count store).1 = .error failure →
      (record report release date count store).2 =
        { store with prepared := (record report release date count store).2.prepared }) ∧
    (count ≤ 0 → ∀ store, record report release date count store = (.ok (), store)) ∧
    (0 < count → ∀ commands : List Command,
      (∀ command ∈ commands, command.keepsTables = true) →
      ((record report release date count (migrated.run commands)).1 = .ok () ↔
        (∃ row ∈ rowsOf (migrated.run commands).reports, row.id = report) ∧
        (∃ row ∈ rowsOf (migrated.run commands).releases, row.id = release) ∧
        ∃ monday : Date, monday.weekday = 0 ∧ monday ≤ date ∧ date.day < monday.day + 7) ∧
      ∀ condition, (record report release date count (migrated.run commands)).1 ≠
        .error (.check condition)) := by
  refine ⟨atomic_record report release date count, fun h store => record_of_nonpos h store, ?_⟩
  intro positive commands keeps
  have outcome : (record report release date count (migrated.run commands)).1 = _ :=
    record_outcome (sound_migrated.run keeps) positive
  have reports : refers (migrated.run commands).reports report = true ↔
      ∃ row ∈ rowsOf (migrated.run commands).reports, row.id = report := refers_iff
  have releases : refers (migrated.run commands).releases release = true ↔
      ∃ row ∈ rowsOf (migrated.run commands).releases, row.id = release := refers_iff
  have mondays : (Granularity.weekly.bucketStart? date).isSome = true ↔
      ∃ monday : Date, monday.weekday = 0 ∧ monday ≤ date ∧ date.day < monday.day + 7 := by
    simp only [Option.isSome_iff_exists, Granularity.bucketStart?_weekly_eq_some_iff]
  rw [outcome, ← reports, ← releases, ← mondays, ← and_assoc]
  split
  · rename_i ends
    split
    · rename_i week
      exact ⟨⟨fun _ => ⟨ends, week⟩, fun _ => rfl⟩, nofun⟩
    · rename_i noWeek
      exact ⟨⟨nofun, fun h => absurd h.2 noWeek⟩, nofun⟩
  · rename_i absent
    exact ⟨⟨nofun, fun h => absurd h.1 absent⟩, nofun⟩

/-- The first date of the calendar's range, a Thursday. -/
def firstDate : Date := ⟨firstDay, by decide, by decide⟩

/-- On the first date of the range no occurrences can be recorded: they are counted in their day
before their week is found to begin too early, and then no table shows them. -/
theorem record_on_firstDate :
    (∃ prepared, (record 1 1 firstDate 2 (migrated.run (oneReport firstDate))).2 =
        { migrated.run (oneReport firstDate) with prepared := prepared }) ∧
      record 1 1 firstDate 0 (migrated.run (oneReport firstDate)) =
        (.ok (), migrated.run (oneReport firstDate)) ∧
      ¬ ∃ monday : Date, monday.weekday = 0 ∧ monday ≤ firstDate ∧
        firstDate.day < monday.day + 7 := by
  have failed : (record 1 1 firstDate 2 (migrated.run (oneReport firstDate))).1
      = .error .dateOutOfRange := rfl
  have report : refers (migrated.run (oneReport firstDate)).reports 1 = true := rfl
  have release : refers (migrated.run (oneReport firstDate)).releases 1 = true := rfl
  refine ⟨⟨_, (record_all_or_nothing 1 1 firstDate 2).1 _ _ failed⟩,
    (record_all_or_nothing 1 1 firstDate 0).2.1 (by decide) _, ?_⟩
  intro week
  have succeeds := ((record_all_or_nothing 1 1 firstDate 2).2.2 (by decide) (oneReport firstDate)
    (by decide)).1.2 ⟨refers_iff.1 report, refers_iff.1 release, week⟩
  rw [failed] at succeeds
  cases succeeds

end Store

end CrashTriage
