import CrashTriage.Proofs.Accounting
import CrashTriage.Proofs.Atomicity
import CrashTriage.Proofs.WrittenOrder
import Mathlib.Data.List.Nodup

/-!
# Records commute

Whether a record succeeds depends on the reports and releases that are present, and no record
changes these. A record that succeeds adds to a bucket at every granularity and to its report, and
widens ranges. So several records have the same outcomes and leave the same rows in whatever order
they are made, except for the values of the counts that have left 64 bits: these are sums of
floating-point numbers. That a count has left 64 bits does not depend on the order either, because
counts only grow.
-/

namespace CrashTriage

/-! ### Changes that can be made in any order -/

/-- Changes that commute on good states as far as a view of the state shows, and whose view depends
only on the view of the state before. -/
structure Commutes {σ α τ : Type} (view : σ → τ) (Good : σ → Prop) (Allowed : α → Prop)
    (change : σ → α → σ) : Prop where
  alike : ∀ s t a, view s = view t → view (change s a) = view (change t a)
  good : ∀ s a, Good s → Allowed a → Good (change s a)
  swap : ∀ s a b, Good s → Allowed a → Allowed b →
    view (change (change s a) b) = view (change (change s b) a)

namespace Commutes

variable {σ α τ : Type} {view : σ → τ} {Good : σ → Prop} {Allowed : α → Prop}
  {change : σ → α → σ}

lemma foldl_alike (commutes : Commutes view Good Allowed change) {s t : σ}
    (same : view s = view t) (items : List α) :
    view (items.foldl change s) = view (items.foldl change t) := by
  induction items generalizing s t with
  | nil => exact same
  | cons item rest ih => exact ih (commutes.alike s t item same)

/-- The order of the changes does not matter. -/
lemma foldl_perm (commutes : Commutes view Good Allowed change) {items others : List α}
    (perm : items.Perm others) (allowed : ∀ item ∈ items, Allowed item) {s : σ} (good : Good s) :
    view (items.foldl change s) = view (others.foldl change s) := by
  induction perm generalizing s with
  | nil => rfl
  | cons item _ ih =>
    have first := allowed item List.mem_cons_self
    exact ih (fun a member => allowed a (List.mem_cons_of_mem item member))
      (commutes.good s item good first)
  | swap a b rest =>
    have ha := allowed a (by simp)
    have hb := allowed b (by simp)
    exact commutes.foldl_alike (commutes.swap s b a good hb ha) rest
  | trans first _ ih ih' =>
    have middle := ih allowed good
    exact middle.trans (ih' (fun a member => allowed a (first.mem_iff.2 member)) good)

end Commutes

/-! ### Tallies as far as they are exact -/

namespace Tally

/-- A tally without the value that it holds approximately. -/
def blur : Tally → Tally
  | .exact n => .exact n
  | .approximate _ => .approximate 0

/-- A tally that is not below zero. -/
def IsNonneg : Tally → Prop
  | .exact n => 0 ≤ n
  | .approximate _ => True

lemma isNonneg_of_isPositive {tally : Tally} (h : tally.isPositive = true) : tally.IsNonneg := by
  cases tally with
  | exact n =>
    have above : 0 < n := of_decide_eq_true h
    exact Int.le_of_lt above
  | approximate x => trivial

/-- Tallies are added to one by one, in any order, as long as none of the counts is negative: when
the sum fits in 64 bits so do all the sums on the way. -/
lemma commutes_add : Commutes blur IsNonneg (0 < ·) add where
  alike s t count same := by
    cases s with
    | exact m =>
      cases t with
      | exact n =>
        cases same
        rfl
      | approximate y => cases same
    | approximate x =>
      cases t with
      | exact n => cases same
      | approximate y => simp only [add, blur]
  good tally count nonneg positive := by
    have above : 0 < count := positive
    cases tally with
    | exact n =>
      simp only [IsNonneg] at nonneg
      simp only [add]
      split
      · simp only [IsNonneg]
        omega
      · trivial
    | approximate x => trivial
  swap tally a b nonneg ha hb := by
    cases tally with
    | approximate x => simp only [add, blur]
    | exact m =>
      simp only [IsNonneg] at nonneg
      have order : m + a + b = m + b + a := by omega
      by_cases fits : Numeral.FitsInt64 (m + a + b)
      · have inside : Numeral.FitsInt64 (m + a) ∧ Numeral.FitsInt64 (m + b) := by
          unfold Numeral.FitsInt64 Numeral.minInt64 at *
          omega
        have fits' := fits
        rw [order] at fits'
        simp only [add, if_pos inside.1, if_pos inside.2, if_pos fits', order]
      · have fits' := fits
        rw [order] at fits'
        -- whichever count takes the tally out of 64 bits, it is approximate in the end
        have out (c d : Int) (outside : ¬ Numeral.FitsInt64 (m + c + d)) :
            blur ((add (.exact m) c).add d) = .approximate 0 := by
          by_cases inside : Numeral.FitsInt64 (m + c)
          · simp only [add, if_pos inside, if_neg outside, blur]
          · simp only [add, if_neg inside, blur]
        rw [out a b fits, out b a fits']

/-- The same for tallies that may be absent. -/
lemma commutes_raise : Commutes (Option.map blur) (fun tally => ∀ t ∈ tally, IsNonneg t) (0 < ·)
    fun tally count => some (raise count tally) where
  alike s t count same := by
    cases s with
    | none =>
      cases t with
      | none => rfl
      | some b => cases same
    | some a =>
      cases t with
      | none => cases same
      | some b => exact congrArg some (commutes_add.alike a b count (Option.some.inj same))
  good tally count nonneg positive := by
    rintro t ⟨⟩
    cases tally with
    | none => exact Int.le_of_lt positive
    | some old => exact commutes_add.good old count (nonneg old rfl) positive
  swap tally a b nonneg ha hb := by
    cases tally with
    | none =>
      simp only [raise, add, Option.map_some, Int.add_comm a b]
      split
      · rfl
      · simp only [blur]
    | some old => exact congrArg some (commutes_add.swap old a b (nonneg old rfl) ha hb)

end Tally

/-! ### Rows as far as they are exact -/

/-- A bucket without the value of an approximate count. -/
def Bucket.blur (bucket : Bucket) : Bucket := { bucket with count := bucket.count.blur }

/-- A report without the value of an approximate count. -/
def Report.blur (report : Report) : Report := { report with count := report.count.blur }

/-- A report after those of some occurrences that are its own. -/
def Report.widenAll (log : List Occurrence) (report : Report) : Report :=
  (log.filter (·.report = report.id)).foldl
    (fun row occurrence => row.widen occurrence.date occurrence.count) report

/-- A problem after those of some occurrences whose report belongs to it. -/
def Problem.widenAll (belongs : Int → Option Int) (log : List Occurrence) (problem : Problem) :
    Problem :=
  (log.filter fun occurrence => belongs occurrence.report = some problem.id).foldl
    (fun row occurrence => row.widen occurrence.date) problem

lemma Report.commutes_widen : Commutes blur (·.count.IsNonneg)
    (fun occurrence : Occurrence => 0 < occurrence.count)
    fun row occurrence => row.widen occurrence.date occurrence.count where
  alike s t occurrence same := by
    obtain ⟨id, problem, component, kind, first, last, count⟩ := s
    obtain ⟨id', problem', component', kind', first', last', count'⟩ := t
    simp only [blur, Report.mk.injEq] at same
    obtain ⟨rfl, rfl, rfl, rfl, rfl, rfl, same⟩ := same
    simp only [blur, widen, Report.mk.injEq, true_and]
    exact Tally.commutes_add.alike count count' occurrence.count same
  good row occurrence := Tally.commutes_add.good row.count occurrence.count
  swap row a b nonneg ha hb := by
    simp only [blur, widen, Report.mk.injEq, true_and]
    exact ⟨Date.writtenMin_right_comm _ _ _, Date.writtenMax_right_comm _ _ _,
      Tally.commutes_add.swap row.count a.count b.count nonneg ha hb⟩

/-- Widening leaves the id and the problem of a report alone. -/
lemma Report.foldl_widen (log : List Occurrence) (report : Report) :
    (log.foldl (fun row occurrence => row.widen occurrence.date occurrence.count) report).id
        = report.id ∧
      (log.foldl (fun row occurrence => row.widen occurrence.date occurrence.count) report).problem
        = report.problem := by
  induction log generalizing report with
  | nil => exact ⟨rfl, rfl⟩
  | cons occurrence rest ih => exact ih (report.widen occurrence.date occurrence.count)

lemma Report.id_widenAll (log : List Occurrence) (report : Report) :
    (report.widenAll log).id = report.id := (foldl_widen _ report).1

lemma Report.problem_widenAll (log : List Occurrence) (report : Report) :
    (report.widenAll log).problem = report.problem := (foldl_widen _ report).2

lemma Problem.id_widenAll (belongs : Int → Option Int) (log : List Occurrence)
    (problem : Problem) : (problem.widenAll belongs log).id = problem.id := by
  have kept (occurrences : List Occurrence) (row : Problem) :
      (occurrences.foldl (fun row occurrence => row.widen occurrence.date) row).id = row.id := by
    induction occurrences generalizing row with
    | nil => rfl
    | cons occurrence rest ih => exact ih (row.widen occurrence.date)
  exact kept _ problem

lemma Report.widenAll_append (log rest : List Occurrence) (report : Report) :
    report.widenAll (log ++ rest) = (report.widenAll log).widenAll rest := by
  rw [widenAll, widenAll, id_widenAll, List.filter_append, List.foldl_append, widenAll]

lemma Problem.widenAll_append (belongs : Int → Option Int) (log rest : List Occurrence)
    (problem : Problem) :
    problem.widenAll belongs (log ++ rest)
      = (problem.widenAll belongs log).widenAll belongs rest := by
  rw [widenAll, widenAll, id_widenAll, List.filter_append, List.foldl_append, widenAll]

/-- The command that records occurrences. -/
def Occurrence.command (occurrence : Occurrence) : Command :=
  .record occurrence.report occurrence.release occurrence.date occurrence.count

namespace Store

open StoreM

variable {store middle after : Store}

/-! ### What a run of records does -/

/-- Whether a sound store counts occurrences when they are recorded. -/
def accepts (store : Store) (occurrence : Occurrence) : Bool :=
  0 < occurrence.count && refers store.reports occurrence.report &&
    refers store.releases occurrence.release &&
    (Granularity.weekly.bucketStart? occurrence.date).isSome

/-- How a log of occurrences, once recorded, has changed a store. -/
structure Logged (store : Store) (log : List Occurrence) (after : Store) : Prop where
  frame : after = { store with
    prepared := after.prepared
    problems := after.problems
    reports := after.reports
    history := after.history }
  tally : ∀ granularity key, after.tally? granularity key =
    Tally.afterAll (store.tally? granularity key) (countsIn granularity key log)
  reports : rowsOf after.reports = (rowsOf store.reports).map (Report.widenAll log)
  problems : rowsOf after.problems =
    (rowsOf store.problems).map (Problem.widenAll store.problemOf? log)

/-- Nothing has been recorded when only the prepared statements have changed. -/
lemma Logged.nil (store : Store) (prepared : List Granularity) :
    Logged store [] { store with prepared := prepared } where
  frame := rfl
  tally _ _ := rfl
  reports := (List.map_id _).symm
  problems := (List.map_id _).symm

/-- The problem of a report is what its row says. -/
lemma problemOf?_eq (store : Store) (report : Int) :
    store.problemOf? report =
      ((rowsOf store.reports).find? fun row => row.id = report).bind Report.problem := by
  unfold problemOf?
  cases store.reports <;> rfl

section
variable {log rest : List Occurrence}

/-- Recorded occurrences leave the ids of the reports and the releases as they are. -/
lemma Logged.refers_eq (logged : Logged store log after) (id : Int) :
    refers after.reports id = refers store.reports id ∧
      refers after.releases id = refers store.releases id := by
  constructor
  · have ids (row : Report) : Identified.id (row.widenAll log) = Identified.id row :=
      Report.id_widenAll log row
    rw [Bool.eq_iff_iff, refers_iff, refers_iff, logged.reports]
    simp only [List.mem_map, exists_exists_and_eq_and, ids]
  · rw [logged.frame]

/-- Recorded occurrences do not change which occurrences a store counts. -/
lemma Logged.accepts_eq (logged : Logged store log after) : after.accepts = store.accepts := by
  funext occurrence
  unfold accepts
  rw [(logged.refers_eq occurrence.report).1, (logged.refers_eq occurrence.release).2]

/-- Recorded occurrences do not change which problem a report belongs to. -/
lemma Logged.problemOf?_eq (logged : Logged store log after) :
    after.problemOf? = store.problemOf? := by
  funext report
  rw [Store.problemOf?_eq, Store.problemOf?_eq, logged.reports, List.find?_map]
  simp only [Function.comp_def, Report.id_widenAll]
  cases (rowsOf store.reports).find? fun row => row.id = report with
  | none => rfl
  | some row => exact Report.problem_widenAll log row

/-- Logs that are recorded one after the other have been recorded together. -/
lemma Logged.append (first : Logged store log middle) (second : Logged middle rest after) :
    Logged store (log ++ rest) after where
  frame := by
    have frame := second.frame
    rw [first.frame] at frame
    exact frame
  tally granularity key := by
    rw [second.tally, first.tally, countsIn_append]
    exact List.foldl_append.symm
  reports := by
    rw [second.reports, first.reports, List.map_map]
    refine List.map_congr_left fun row _ => ?_
    exact (Report.widenAll_append log rest row).symm
  problems := by
    rw [second.problems, first.problems, first.problemOf?_eq, List.map_map]
    refine List.map_congr_left fun row _ => ?_
    exact (Problem.widenAll_append store.problemOf? log rest row).symm

end

lemma keepsTables_command (occurrence : Occurrence) : occurrence.command.keepsTables = true := rfl

/-- A step that records takes its outcome and its store from the record. -/
lemma step_command (store : Store) (occurrence : Occurrence) :
    store.step occurrence.command =
      ((record occurrence.report occurrence.release occurrence.date occurrence.count store).1.map
          fun _ => .done,
        (record occurrence.report occurrence.release occurrence.date occurrence.count
          store).2) := by
  change ((fun _ => Reply.done) <$> record occurrence.report occurrence.release occurrence.date
    occurrence.count) store = _
  rw [map_apply]
  rcases record occurrence.report occurrence.release occurrence.date occurrence.count store with
    ⟨failure | u, changed⟩
  · rfl
  · rfl

/-- Occurrences of a positive count that are recorded successfully make a log of their own. -/
lemma Logged.of_record (occurrence : Occurrence) (positive : 0 < occurrence.count)
    (yields : (record occurrence.report occurrence.release occurrence.date
      occurrence.count).Yields store () after) : Logged store [occurrence] after where
  frame := record_frame yields
  tally granularity key := by
    obtain ⟨start, inside, tallies⟩ := (record_effect positive yields).1 granularity
    have falls : occurrence.fallsIn granularity key = true ↔
        key = (occurrence.report, occurrence.release, start) := Occurrence.fallsIn_iff inside
    rw [tallies key]
    split
    · rename_i same
      rw [countsIn, List.filter_cons, if_pos (falls.2 same)]
      rfl
    · rename_i other
      rw [countsIn, List.filter_cons, if_neg (mt falls.1 other)]
      rfl
  reports := by
    obtain ⟨-, table, found, widened⟩ := record_effect positive yields
    rw [found, widened]
    refine List.map_congr_left fun row _ => ?_
    unfold Report.widenAll
    by_cases same : Identified.id row = occurrence.report
    · have own : occurrence.report = row.id := same.symm
      rw [if_pos same, List.filter_cons, if_pos (decide_eq_true own)]
      rfl
    · have other : occurrence.report ≠ row.id := Ne.symm same
      rw [if_neg same, List.filter_cons, if_neg (by simpa using other)]
      rfl
  problems := by
    rw [record_problems positive yields]
    refine List.map_congr_left fun row _ => ?_
    unfold Problem.widenAll
    by_cases belongs : store.problemOf? occurrence.report = some row.id
    · rw [if_pos belongs, List.filter_cons, if_pos (decide_eq_true belongs)]
      rfl
    · rw [if_neg belongs, List.filter_cons, if_neg (by simpa using belongs)]
      rfl

/-- A record in a sound store is logged if the store counts it, and otherwise nothing is. -/
lemma Logged.step (sound : store.Sound) (occurrence : Occurrence) :
    Logged store ([occurrence].filter store.accepts) (store.step occurrence.command).2 := by
  rw [step_command]
  by_cases positive : 0 < occurrence.count
  · have outcome : (record occurrence.report occurrence.release occurrence.date occurrence.count
        store).1 = _ := record_outcome sound positive
    have accepted : store.accepts occurrence = true ↔
        (refers store.reports occurrence.report = true ∧
          refers store.releases occurrence.release = true) ∧
        (Granularity.weekly.bucketStart? occurrence.date).isSome = true := by
      simp [accepts, positive, and_assoc]
    split at outcome
    · rename_i ends
      split at outcome
      · rename_i week
        rw [List.filter_cons, if_pos (accepted.2 ⟨ends, week⟩)]
        exact .of_record occurrence positive ⟨outcome, rfl⟩
      · rename_i noWeek
        rw [List.filter_cons, if_neg fun h => noWeek (accepted.1 h).2,
          atomic_record _ _ _ _ store _ outcome]
        exact .nil store _
    · rename_i absent
      rw [List.filter_cons, if_neg fun h => absent (accepted.1 h).1,
        atomic_record _ _ _ _ store _ outcome]
      exact .nil store _
  · have refused : store.accepts occurrence = false := by simp [accepts, positive]
    rw [record_of_nonpos (Int.not_lt.1 positive), List.filter_cons, refused]
    exact .nil store store.prepared

/-- A run of records from a sound store is logged as far as the store counts them. -/
lemma Logged.run (sound : store.Sound) (calls : List Occurrence) :
    Logged store (calls.filter store.accepts) (store.run (calls.map Occurrence.command)) := by
  induction calls generalizing store with
  | nil => exact .nil store store.prepared
  | cons call rest ih =>
    have first := Logged.step sound call
    have second := ih (sound.step (keepsTables_command call))
    rw [first.accepts_eq] at second
    rw [List.map_cons, run_cons, ← List.singleton_append, List.filter_append]
    exact first.append second

/-- A record has the same outcome in sound stores that have the same reports and releases. -/
lemma outcome_congr {other : Store} (sound : store.Sound) (sound' : other.Sound)
    (same : ∀ id, refers other.reports id = refers store.reports id ∧
      refers other.releases id = refers store.releases id) (call : Occurrence) :
    (other.step call.command).1 = (store.step call.command).1 := by
  rw [step_command, step_command]
  by_cases positive : 0 < call.count
  · rw [record_outcome sound positive, record_outcome sound' positive, (same call.report).1,
      (same call.release).2]
  · rw [record_of_nonpos (Int.not_lt.1 positive), record_of_nonpos (Int.not_lt.1 positive)]

/-- In a run of records each has the outcome that it has when it is made first. -/
lemma trace_of_records (sound : store.Sound) (calls : List Occurrence) :
    store.trace (calls.map Occurrence.command) =
      calls.map fun call => ⟨call.command, (store.step call.command).1⟩ := by
  induction calls generalizing store with
  | nil => rfl
  | cons call rest ih =>
    have later := sound.step (keepsTables_command call)
    rw [List.map_cons, List.map_cons, trace, ih later]
    congr 1
    refine List.map_congr_left fun next _ => ?_
    rw [outcome_congr sound later (Logged.step sound call).refers_eq next]

/-! ### Stores with the same rows -/

/-- Two stores have the same rows in every table, except for the values of approximate counts. -/
structure SameRows (a b : Store) : Prop where
  tables : ∀ table, a.has table = b.has table
  migrations : a.migrations = b.migrations
  opsys : a.opsys = b.opsys
  releases : a.releases = b.releases
  components : a.components = b.components
  componentLinks : a.componentLinks = b.componentLinks
  releaseLinks : a.releaseLinks = b.releaseLinks
  problems : rowsOf a.problems = rowsOf b.problems
  reports : (rowsOf a.reports).map Report.blur = (rowsOf b.reports).map Report.blur
  buckets : ∀ granularity,
    ((a.buckets granularity).map Bucket.blur).Perm ((b.buckets granularity).map Bucket.blur)

/-- A store has a bucket, as far as counts are exact, when it has the tally of the bucket. -/
lemma mem_map_blur_iff {granularity : Granularity} {bucket : Bucket} :
    bucket ∈ (store.buckets granularity).map Bucket.blur ↔
      (store.tally? granularity (Keyed.key bucket)).map Tally.blur = some bucket.count := by
  rw [List.mem_map, Option.map_eq_some_iff]
  simp only [tally?_eq_some_iff]
  constructor
  · rintro ⟨row, member, rfl⟩
    exact ⟨row.count, ⟨row, member, rfl, rfl⟩, rfl⟩
  · rintro ⟨tally, ⟨row, member, key, rfl⟩, count⟩
    refine ⟨row, member, ?_⟩
    simp only [Bucket.key_eq, Prod.mk.injEq] at key
    simp only [Bucket.blur, count, key]

/-- Stores whose tallies are the same as far as they are exact have the same buckets. -/
lemma perm_buckets {a b : Store} {granularity : Granularity}
    (same : ∀ key, (a.tally? granularity key).map Tally.blur
      = (b.tally? granularity key).map Tally.blur) :
    ((a.buckets granularity).map Bucket.blur).Perm ((b.buckets granularity).map Bucket.blur) := by
  have nodup (store : Store) : ((store.buckets granularity).map Bucket.blur).Nodup := by
    refine List.pairwise_map.2 ((pairwise_buckets store granularity).imp ?_)
    intro a b differ equal
    have key : Keyed.key a.blur = Keyed.key b.blur := by rw [equal]
    exact differ key
  rw [List.perm_ext_iff_of_nodup (nodup a) (nodup b)]
  intro bucket
  rw [mem_map_blur_iff, mem_map_blur_iff, same]

/-- Logs that are permutations of each other leave the same rows. -/
lemma Logged.sameRows {other : Store} {log log' : List Occurrence}
    (first : Logged store log after) (second : Logged store log' other) (perm : log.Perm log')
    (positive : ∀ occurrence ∈ log, 0 < occurrence.count) (sound : store.Sound)
    (nonneg : ∀ row ∈ rowsOf store.reports, row.count.IsNonneg)
    (tables : ∀ table, after.has table = other.has table) : SameRows after other where
  tables := tables
  migrations := by rw [first.frame, second.frame]
  opsys := by rw [first.frame, second.frame]
  releases := by rw [first.frame, second.frame]
  components := by rw [first.frame, second.frame]
  componentLinks := by rw [first.frame, second.frame]
  releaseLinks := by rw [first.frame, second.frame]
  problems := by
    rw [first.problems, second.problems]
    refine List.map_congr_left fun row _ => (perm.filter _).foldl_eq' ?_ row
    intro a _ b _ problem
    simp only [Problem.widen, Problem.mk.injEq, true_and]
    exact ⟨Date.writtenMin_right_comm _ _ _, Date.writtenMax_right_comm _ _ _⟩
  reports := by
    rw [first.reports, second.reports, List.map_map, List.map_map]
    refine List.map_congr_left fun row member => ?_
    refine Report.commutes_widen.foldl_perm (perm.filter _) ?_ (nonneg row member)
    intro occurrence own
    exact positive occurrence (List.mem_filter.1 own).1
  buckets granularity := by
    refine perm_buckets fun key => ?_
    rw [first.tally, second.tally]
    refine Tally.commutes_raise.foldl_perm ((perm.filter _).map _) ?_ ?_
    · intro count counted
      obtain ⟨occurrence, inside, rfl⟩ := List.mem_map.1 counted
      exact positive occurrence (List.mem_filter.1 inside).1
    · intro tally tallied
      obtain ⟨bucket, member, -, rfl⟩ := tally?_eq_some_iff.1 tallied
      exact Tally.isNonneg_of_isPositive (sound.positive granularity bucket member)

/-- The count of a report is not below zero after any run. -/
lemma Accounted.isNonneg_count {events : List Event} (accounted : Accounted events store)
    {row : Report} (member : row ∈ rowsOf store.reports) : row.count.IsNonneg := by
  have counted := accounted.count row member
  cases count : row.count with
  | approximate x => trivial
  | exact n =>
    rw [count] at counted
    have sum : n = _ := Tally.eq_sum_of_afterAll_eq_exact (.inr rfl) counted.symm
    change 0 ≤ n
    rw [sum]
    refine Tally.sum_nonneg_of_pos fun c inside => ?_
    obtain ⟨occurrence, own, rfl⟩ := List.mem_map.1 inside
    exact count_pos_of_mem_standing (List.mem_filter.1 own).1

/-- After any run of commands that enter, link, record or remove rows, records can be made in any
order: each has the outcome that it would have as the first of them, so the same in every order, and
in every order they leave the same rows in all tables, except for the values of counts that have
left 64 bits. -/
theorem records_commute (commands : List Command)
    (keeps : ∀ command ∈ commands, command.keepsTables = true) {calls others : List Occurrence}
    (perm : calls.Perm others) :
    (migrated.run commands).trace (calls.map Occurrence.command) =
      calls.map (fun call =>
        ⟨call.command, ((migrated.run commands).step call.command).1⟩) ∧
    (migrated.run commands).trace (others.map Occurrence.command) =
      others.map (fun call =>
        ⟨call.command, ((migrated.run commands).step call.command).1⟩) ∧
    SameRows ((migrated.run commands).run (calls.map Occurrence.command))
      ((migrated.run commands).run (others.map Occurrence.command)) := by
  have sound : (migrated.run commands).Sound := sound_migrated.run keeps
  have accounted := accounted_run commands keeps
  have present (order : List Occurrence) (table : TableName) :
      ((migrated.run commands).run (order.map Occurrence.command)).has table = true := by
    refine (sound.run ?_).tables table
    intro command member
    obtain ⟨call, -, rfl⟩ := List.mem_map.1 member
    exact keepsTables_command call
  refine ⟨trace_of_records sound calls, trace_of_records sound others, ?_⟩
  refine (Logged.run sound calls).sameRows (Logged.run sound others) (perm.filter _) ?_ sound
    (fun row member => accounted.isNonneg_count member) fun table => ?_
  · intro occurrence counted
    have accepted := (List.mem_filter.1 counted).2
    simp only [accepts, Bool.and_eq_true, decide_eq_true_eq] at accepted
    exact accepted.1.1.1
  · rw [present calls table, present others table]

/-- Records of one week in two months that take its count out of 64 bits, a record of a report that
is absent and a record of nothing. -/
def leavingSixtyFourBits : List Occurrence :=
  [⟨1, 1, newYearsEve, 2⟩, ⟨2, 1, newYearsDay, 1⟩, ⟨1, 1, newYearsDay, Numeral.maxInt64⟩,
    ⟨1, 1, newYearsEve, 0⟩, ⟨1, 1, newYearsEve, 5⟩]

/-- In reverse order the same record is refused and the same count leaves 64 bits. -/
theorem records_commute_leavingSixtyFourBits :
    SameRows
        ((migrated.run (oneReport newYearsEve)).run
          (leavingSixtyFourBits.reverse.map Occurrence.command))
        ((migrated.run (oneReport newYearsEve)).run
          (leavingSixtyFourBits.map Occurrence.command)) ∧
      ⟨.record 2 1 newYearsDay 1, .error .foreignKey⟩ ∈
        (migrated.run (oneReport newYearsEve)).trace
          (leavingSixtyFourBits.reverse.map Occurrence.command) ∧
      (((migrated.run (oneReport newYearsEve)).run
        (leavingSixtyFourBits.reverse.map Occurrence.command)).buckets .weekly).map
          (·.count.isApproximate) = [true] ∧
      (((migrated.run (oneReport newYearsEve)).run
        (leavingSixtyFourBits.reverse.map Occurrence.command)).buckets .daily).map
          (·.count.isApproximate) = [false, false] := by
  have commute := records_commute (oneReport newYearsEve) (by decide)
    (List.reverse_perm leavingSixtyFourBits)
  refine ⟨commute.2.2, ?_, rfl, rfl⟩
  rw [commute.1]
  exact List.mem_map.2 ⟨⟨2, 1, newYearsDay, 1⟩, by simp [leavingSixtyFourBits], rfl⟩

end Store

end CrashTriage
