import CrashTriage.Proofs.Recording

/-!
# Sound stores

A store is sound when all its tables are present, every reference of the schema leads to a row,
and every row meets the conditions of its table. The migrated store is sound, and every command
that leaves the tables themselves alone keeps a store sound, whether it succeeds or fails.
-/

namespace CrashTriage

/-- Whether a command enters, links, records or removes rows and leaves the tables themselves
alone. -/
def Command.keepsTables : Command → Bool
  | .drop _ | .migrate => false
  | _ => true

namespace Store

open StoreM

/-- A store whose tables are present, whose references lead to rows and whose rows meet the
conditions of the schema. -/
structure Sound (store : Store) : Prop where
  tables : ∀ table, store.has table = true
  release : ∀ row ∈ rowsOf store.releases, refers store.opsys row.opsys = true
  component : ∀ row ∈ rowsOf store.components, refers store.opsys row.opsys = true
  componentLink : ∀ row ∈ entriesOf store.componentLinks,
    refers store.problems row.problem = true ∧ refers store.components row.component = true
  releaseLink : ∀ row ∈ entriesOf store.releaseLinks,
    refers store.problems row.problem = true ∧ refers store.releases row.release = true
  report : ∀ row ∈ rowsOf store.reports,
    row.problem.all (refers store.problems) = true ∧ refers store.components row.component = true
  bucket : ∀ granularity, ∀ row ∈ store.buckets granularity,
    refers store.reports row.report = true ∧ refers store.releases row.release = true
  positive : ∀ granularity, ∀ row ∈ store.buckets granularity, row.count.isPositive = true
  ordered : ∀ row ∈ rowsOf store.problems, row.last.isWrittenBefore row.first = false

/-- The migrated store is sound: its tables are present and have no rows. -/
lemma sound_migrated : migrated.Sound where
  tables table := by
    cases table with
    | history granularity => cases granularity <;> rfl
    | _ => rfl
  release _ member := absurd member List.not_mem_nil
  component _ member := absurd member List.not_mem_nil
  componentLink _ member := absurd member List.not_mem_nil
  releaseLink _ member := absurd member List.not_mem_nil
  report _ member := absurd member List.not_mem_nil
  bucket granularity _ member := by cases granularity <;> exact absurd member List.not_mem_nil
  positive granularity _ member := by cases granularity <;> exact absurd member List.not_mem_nil
  ordered _ member := absurd member List.not_mem_nil

/-- Soundness does not depend on what is prepared. -/
lemma Sound.prepared {store : Store} (sound : store.Sound) (prepared : List Granularity) :
    { store with prepared := prepared }.Sound :=
  { sound with tables := fun table => (has_prepared prepared table).trans (sound.tables table) }

/-- In a sound store no table that another one refers to is missing. -/
lemma Sound.requireParents_eq {store : Store} (sound : store.Sound) (table : TableName) :
    store.requireParents table = .ok () :=
  requireParents_eq_ok_iff.2 fun parent _ => sound.tables parent

/-! ### References into changed tables -/

section
variable {ρ : Type} [Identified ρ] {register : Option (Register ρ)} {table : Register ρ}

/-- A reference is not lost when a row is entered. -/
lemma refers_insert {row : ρ} {h : Identified.id row = table.nextId} {id : Int}
    (found : register = some table) (here : refers register id = true) :
    refers (some (table.insert row h)) id = true := by
  rw [found] at here
  rw [refers_some, Register.contains_insert, Bool.or_eq_true]
  exact .inl here

/-- A reference is not lost when a row is changed. -/
lemma refers_update {k : Int} {change : ρ → ρ}
    {h : ∀ row, Identified.id (change row) = Identified.id row} {id : Int}
    (found : register = some table) (here : refers register id = true) :
    refers (some (table.update k change h)) id = true := by
  rw [found] at here
  rw [refers_some, Register.contains_update]
  exact here

/-- A reference is not lost when rows are removed, unless it leads to one of them. -/
lemma refers_filter {gone : Int → Bool} {id : Int} (here : refers register id = true)
    (stays : gone id = false) :
    refers (register.map (·.filter fun row => !gone (Identified.id row))) id = true := by
  cases register with
  | none => exact here
  | some table =>
    change (table.filter _).contains id = true
    rw [Register.contains_filter, stays, Bool.not_false, Bool.and_true]
    exact here

/-- What holds of all rows and of a new one holds of all rows when the new one is entered. -/
lemma forall_rowsOf_insert {P : ρ → Prop} {row : ρ} {h : Identified.id row = table.nextId}
    (found : register = some table) (old : ∀ r ∈ rowsOf register, P r) (new : P row) :
    ∀ r ∈ rowsOf (some (table.insert row h)), P r := by
  intro r member
  rcases List.mem_append.1 member with before | entered
  · apply old r
    rw [found]
    exact before
  · rw [List.mem_singleton.1 entered]
    exact new

/-- What holds of all links and of a new one holds of all links when the new one is entered. -/
lemma forall_entriesOf_insert {κ σ : Type} [Keyed σ κ] [DecidableEq κ] {P : σ → Prop}
    {ledger : Option (Ledger σ)} {links : Ledger σ} {row : σ}
    {h : links.contains (Keyed.key row) = false} (found : ledger = some links)
    (old : ∀ r ∈ entriesOf ledger, P r) (new : P row) :
    ∀ r ∈ entriesOf (some (links.insert row h)), P r := by
  intro r member
  rcases List.mem_append.1 member with before | entered
  · apply old r
    rw [found]
    exact before
  · rw [List.mem_singleton.1 entered]
    exact new

end

/-! ### Statements keep a store sound -/

/-- To enter an operating system keeps a store sound. -/
lemma insertOpSys_keeps_sound (name : String) : (insertOpSys name).Keeps Sound := by
  refine (atomic_statement _).keeps (fun _ prepared sound => sound.prepared prepared) ?_
  intro store id after sound yields
  obtain ⟨table, found, -, -, rfl⟩ := insertOpSys_yields_iff.1 yields
  exact { sound with
    tables := fun t => by have here := sound.tables t; cases t <;> first | exact here | rfl
    release := fun row member => refers_insert found (sound.release row member)
    component := fun row member => refers_insert found (sound.component row member) }

/-- To enter a release keeps a store sound. -/
lemma insertRelease_keeps_sound (opsys : Int) (version : String) :
    (insertRelease opsys version).Keeps Sound := by
  refine (atomic_statement _).keeps (fun _ prepared sound => sound.prepared prepared) ?_
  intro store id after sound yields
  obtain ⟨table, found, -, -, system, -, rfl⟩ := insertRelease_yields_iff.1 yields
  exact { sound with
    tables := fun t => by have here := sound.tables t; cases t <;> first | exact here | rfl
    release := forall_rowsOf_insert found sound.release system
    releaseLink := fun row member =>
      (sound.releaseLink row member).imp_right (refers_insert found)
    bucket := fun granularity row member =>
      (sound.bucket granularity row member).imp_right (refers_insert found) }

/-- To enter a component keeps a store sound. -/
lemma insertComponent_keeps_sound (opsys : Int) (name : String) :
    (insertComponent opsys name).Keeps Sound := by
  refine (atomic_statement _).keeps (fun _ prepared sound => sound.prepared prepared) ?_
  intro store id after sound yields
  obtain ⟨table, found, -, -, system, -, rfl⟩ := insertComponent_yields_iff.1 yields
  exact { sound with
    tables := fun t => by have here := sound.tables t; cases t <;> first | exact here | rfl
    component := forall_rowsOf_insert found sound.component system
    componentLink := fun row member =>
      (sound.componentLink row member).imp_right (refers_insert found)
    report := fun row member => (sound.report row member).imp_right (refers_insert found) }

/-- To enter a problem keeps a store sound. -/
lemma insertProblem_keeps_sound (first last : Date) : (insertProblem first last).Keeps Sound := by
  refine (atomic_statement _).keeps (fun _ prepared sound => sound.prepared prepared) ?_
  intro store id after sound yields
  obtain ⟨table, found, ordered, -, rfl⟩ := insertProblem_yields_iff.1 yields
  exact { sound with
    tables := fun t => by have here := sound.tables t; cases t <;> first | exact here | rfl
    componentLink := fun row member =>
      (sound.componentLink row member).imp_left (refers_insert found)
    releaseLink := fun row member =>
      (sound.releaseLink row member).imp_left (refers_insert found)
    report := fun row member => (sound.report row member).imp_left fun here => by
      cases problem : row.problem with
      | none => rfl
      | some id =>
        rw [problem] at here
        exact refers_insert found here
    ordered := forall_rowsOf_insert found sound.ordered ordered }

/-- To enter a report keeps a store sound. -/
lemma insertReport_keeps_sound (problem : Option Int) (component : Int) (first : Date) :
    (insertReport problem component first).Keeps Sound := by
  refine (atomic_statement _).keeps (fun _ prepared sound => sound.prepared prepared) ?_
  intro store id after sound yields
  obtain ⟨table, found, -, references, -, rfl⟩ := insertReport_yields_iff.1 yields
  exact { sound with
    tables := fun t => by have here := sound.tables t; cases t <;> first | exact here | rfl
    report := forall_rowsOf_insert found sound.report references
    bucket := fun granularity row member =>
      (sound.bucket granularity row member).imp_left (refers_insert found) }

/-- To link a component keeps a store sound. -/
lemma linkComponent_keeps_sound (problem component order : Int) :
    (linkComponent problem component order).Keeps Sound := by
  refine (atomic_statement _).keeps (fun _ prepared sound => sound.prepared prepared) ?_
  intro store u after sound yields
  obtain ⟨table, found, -, ⟨-, rfl⟩ | ⟨fresh, ends, rfl⟩⟩ := linkComponent_yields_iff.1 yields
  · exact sound
  · exact { sound with
      tables := fun t => by have here := sound.tables t; cases t <;> first | exact here | rfl
      componentLink := forall_entriesOf_insert found sound.componentLink ends }

/-- To link a release keeps a store sound. -/
lemma linkRelease_keeps_sound (problem release : Int) (fix : Option String) :
    (linkRelease problem release fix).Keeps Sound := by
  refine (atomic_statement _).keeps (fun _ prepared sound => sound.prepared prepared) ?_
  intro store u after sound yields
  obtain ⟨table, found, -, ⟨-, rfl⟩ | ⟨fresh, ends, rfl⟩⟩ := linkRelease_yields_iff.1 yields
  · exact { sound with
      tables := fun t => by have here := sound.tables t; cases t <;> first | exact here | rfl
      releaseLink := fun row member => by
        obtain ⟨old, there, rfl⟩ := List.mem_map.1 member
        have references := sound.releaseLink old (by rw [found]; exact there)
        split
        · exact references
        · exact references }
  · exact { sound with
      tables := fun t => by have here := sound.tables t; cases t <;> first | exact here | rfl
      releaseLink := forall_entriesOf_insert found sound.releaseLink ends }

/-! ### Records keep a store sound -/

/-- The buckets of a history in which one ledger has been replaced. -/
lemma entriesOf_get_set (history : History) (granularity h : Granularity)
    (table : Ledger Bucket) :
    entriesOf ((history.set granularity (some table)).get h)
      = if h = granularity then table.rows else entriesOf (history.get h) := by
  rw [History.get_set]
  split <;> rfl

/-- To prepare a statement keeps a store sound. -/
lemma prepareBucket_keeps_sound (granularity : Granularity) :
    (prepareBucket granularity).Keeps Sound := by
  refine (atomic_statement _).keeps (fun _ prepared sound => sound.prepared prepared) ?_
  intro store u after sound yields
  obtain ⟨-, rfl⟩ | ⟨-, -, -, rfl⟩ := prepareBucket_yields_iff.1 yields
  · exact sound
  · exact sound.prepared _

/-- To count occurrences in a bucket keeps a store sound. -/
lemma countInBucket_keeps_sound (granularity : Granularity) (report release : Int) (date : Date)
    (count : Int) : (countInBucket granularity report release date count).Keeps Sound := by
  refine (atomic_statement _).keeps (fun _ prepared sound => sound.prepared prepared) ?_
  intro store u after sound yields
  obtain ⟨start, table, -, found, -, -, allowed, positive, rfl⟩ :=
    countInBucket_yields_iff.1 yields
  have old (row : Bucket) (member : row ∈ table.rows) : row ∈ store.buckets granularity := by
    rw [buckets, found]
    exact member
  have ends : refers store.reports report = true ∧ refers store.releases release = true := by
    rcases allowed with known | ends
    · obtain ⟨row, member, same⟩ := Ledger.contains_iff.1 known
      obtain ⟨rfl, rfl, -⟩ := same
      exact sound.bucket granularity row (old row member)
    · exact ends
  refine { sound with tables := fun t => ?_, bucket := fun h row member => ?_,
                      positive := fun h row member => ?_ }
  · have here := sound.tables t
    cases t with
    | history h =>
      simp only [has, History.get_set]
      split
      · rfl
      · exact here
    | _ => exact here
  · rw [buckets, entriesOf_get_set] at member
    split at member
    · rcases Ledger.mem_raise member with raised | member
      · obtain ⟨rfl, rfl, -⟩ := raised
        exact ends
      · exact sound.bucket granularity row (old row member)
    · exact sound.bucket h row member
  · rw [buckets, entriesOf_get_set] at member
    split at member
    · rcases Ledger.mem_raise member with raised | unchanged
      · have tallied := Ledger.tally?_key member
        rw [raised] at tallied
        exact positive row.count tallied
      · exact sound.positive granularity row (old row unchanged)
    · exact sound.positive h row member

/-- To widen a report keeps a store sound. -/
lemma widenReport_keeps_sound (report : Int) (date : Date) (count : Int) :
    (widenReport report date count).Keeps Sound := by
  refine (atomic_statement _).keeps (fun _ prepared sound => sound.prepared prepared) ?_
  intro store u after sound yields
  obtain ⟨table, found, rfl⟩ := widenReport_yields_iff.1 yields
  exact { sound with
    tables := fun t => by have here := sound.tables t; cases t <;> first | exact here | rfl
    report := fun row member => by
      obtain ⟨old, there, rfl⟩ := List.mem_map.1 member
      have references := sound.report old (by rw [found]; exact there)
      split
      · exact references
      · exact references
    bucket := fun granularity row member =>
      (sound.bucket granularity row member).imp_left (refers_update found) }

/-- To widen a problem keeps a store sound. -/
lemma widenProblem_keeps_sound (report : Int) (date : Date) :
    (widenProblem report date).Keeps Sound := by
  refine (atomic_statement _).keeps (fun _ prepared sound => sound.prepared prepared) ?_
  intro store u after sound yields
  obtain ⟨problems, reports, found, -, ⟨-, rfl⟩ | ⟨problem, -, ordered, rfl⟩⟩ :=
    widenProblem_yields_iff.1 yields
  · exact sound
  · exact { sound with
      tables := fun t => by have here := sound.tables t; cases t <;> first | exact here | rfl
      componentLink := fun row member =>
        (sound.componentLink row member).imp_left (refers_update found)
      releaseLink := fun row member =>
        (sound.releaseLink row member).imp_left (refers_update found)
      report := fun row member => (sound.report row member).imp_left fun here => by
        cases problem : row.problem with
        | none => rfl
        | some id =>
          rw [problem] at here
          exact refers_update found here
      ordered := fun row member => by
        by_cases same : row.id = problem
        · exact ordered row (Register.find?_eq_some_iff.2 ⟨member, same⟩)
        · obtain ⟨old, there, shape⟩ := List.mem_map.1 member
          split at shape
          · rename_i widened
            exact absurd (by rw [← shape]; exact widened) same
          · rw [← shape]
            exact sound.ordered old (by rw [found]; exact there) }

/-- To enter occurrences in a bucket keeps a store sound. -/
lemma enterBucket_keeps_sound (granularity : Granularity) (report release : Int) (date : Date)
    (count : Int) : (enterBucket granularity report release date count).Keeps Sound :=
  (prepareBucket_keeps_sound granularity).bind fun _ =>
    countInBucket_keeps_sound granularity report release date count

/-- To record occurrences keeps a store sound. -/
lemma record_keeps_sound (report release : Int) (date : Date) (count : Int) :
    (record report release date count).Keeps Sound := by
  have enter (granularity : Granularity) :=
    enterBucket_keeps_sound granularity report release date count
  unfold record
  split
  · exact fun store sound => sound
  · refine Keeps.transaction ?_ fun _ prepared sound => sound.prepared prepared
    exact (enter .daily).bind fun _ => (enter .weekly).bind fun _ => (enter .monthly).bind fun _ =>
      (widenReport_keeps_sound report date count).bind fun _ =>
        widenProblem_keeps_sound report date

/-! ### Removals keep a store sound -/

/-- A removal that is refused under a condition succeeds only without it. -/
lemma refuse_eq_ok_iff {p : Prop} [Decidable p] {failure : Failure} {store after : Store} :
    (if p then (.error failure : Except Failure Store) else .ok store) = .ok after ↔
      ¬ p ∧ store = after := by
  by_cases hp : p <;> simp [hp]

/-- A test that no row of a list passes is false on every row. -/
lemma eq_false_of_not_any {ρ : Type} {rows : List ρ} {test : ρ → Bool}
    (h : rows.any test = false) {row : ρ} (member : row ∈ rows) : test row = false := by
  rw [List.any_eq_false] at h
  exact Bool.eq_false_iff.2 (h row member)

/-- The rows of a register after a change of all rows come from those before it. -/
lemma exists_of_mem_modify {ρ : Type} [Identified ρ] {register : Option (Register ρ)}
    {change : ρ → ρ} {h : ∀ row, Identified.id (change row) = Identified.id row} {row : ρ}
    (member : row ∈ rowsOf (register.map (·.modify change h))) :
    ∃ old ∈ rowsOf register, change old = row := by
  cases register with
  | none => exact absurd member List.not_mem_nil
  | some table => exact List.mem_map.1 member

/-- A change of all rows leaves the references to them alone. -/
lemma refers_modify {ρ : Type} [Identified ρ] {register : Option (Register ρ)} {change : ρ → ρ}
    {h : ∀ row, Identified.id (change row) = Identified.id row} {id : Int} :
    refers (register.map (·.modify change h)) id = refers register id := by
  cases register with
  | none => rfl
  | some table => exact Register.contains_modify

/-- A report that is detached keeps its component. -/
lemma component_detach (gone : Int → Bool) (report : Report) :
    (report.detach gone).component = report.component := by
  unfold Report.detach
  split <;> rfl

/-- A detached report belongs to no removed problem. -/
lemma problem_detach (gone : Int → Bool) (report : Report) :
    (report.detach gone).problem = report.problem.filter (!gone ·) := by
  unfold Report.detach
  cases problem : report.problem with
  | none => simp [problem]
  | some id => by_cases removed : gone id = true <;> simp [removed, problem, Option.filter]

/-- The rows of a register after a removal are among those before it. -/
lemma mem_of_mem_filter {ρ : Type} [Identified ρ] {register : Option (Register ρ)}
    {keep : ρ → Bool} {row : ρ} (h : row ∈ rowsOf (register.map (·.filter keep))) :
    row ∈ rowsOf register ∧ keep row = true := by
  cases register with
  | none => exact absurd h List.not_mem_nil
  | some table => exact List.mem_filter.1 h

/-- The entries of a ledger after a removal are among those before it. -/
lemma mem_of_mem_filter_entries {ρ κ : Type} [Keyed ρ κ] {ledger : Option (Ledger ρ)}
    {keep : ρ → Bool} {row : ρ} (h : row ∈ entriesOf (ledger.map (·.filter keep))) :
    row ∈ entriesOf ledger ∧ keep row = true := by
  cases ledger with
  | none => exact absurd h List.not_mem_nil
  | some table => exact List.mem_filter.1 h

/-- To remove rows leaves all tables present. -/
lemma has_removeRows {store after : Store} {table : TableName} {gone : Int → Bool}
    (removed : store.removeRows table gone = .ok after) (t : TableName) :
    after.has t = store.has t := by
  cases table with
  | opsys | releases | components =>
    simp only [Store.removeRows, refuse_eq_ok_iff] at removed
    obtain ⟨-, rfl⟩ := removed
    cases t <;> simp [has]
  | _ =>
    cases removed
    cases t <;> simp [has]

/-- To remove rows with what goes along with them keeps a store sound. -/
lemma Sound.removeRows {store after : Store} {table : TableName} {gone : Int → Bool}
    (sound : store.Sound) (removed : store.removeRows table gone = .ok after) : after.Sound := by
  have tables (t : TableName) : after.has t = true :=
    (has_removeRows removed t).trans (sound.tables t)
  cases table with
  | migrations =>
    cases removed
    exact { sound with tables := tables }
  | opsys =>
    simp only [Store.removeRows, refuse_eq_ok_iff, Bool.or_eq_true, not_or, Bool.not_eq_true]
      at removed
    obtain ⟨⟨releases, components⟩, rfl⟩ := removed
    exact { sound with
      tables := tables
      release := fun row member => refers_filter (sound.release row member)
        (eq_false_of_not_any releases member)
      component := fun row member => refers_filter (sound.component row member)
        (eq_false_of_not_any components member) }
  | releases =>
    simp only [Store.removeRows, refuse_eq_ok_iff, Bool.or_eq_true, not_or, Bool.not_eq_true]
      at removed
    obtain ⟨⟨⟨⟨links, daily⟩, weekly⟩, monthly⟩, rfl⟩ := removed
    exact { sound with
      tables := tables
      release := fun row member => sound.release row (mem_of_mem_filter member).1
      releaseLink := fun row member => (sound.releaseLink row member).imp_right fun there =>
        refers_filter there (eq_false_of_not_any links member)
      bucket := fun granularity row member =>
        (sound.bucket granularity row member).imp_right fun there => refers_filter there <| by
          cases granularity with
          | daily => exact eq_false_of_not_any daily member
          | weekly => exact eq_false_of_not_any weekly member
          | monthly => exact eq_false_of_not_any monthly member }
  | components =>
    simp only [Store.removeRows, refuse_eq_ok_iff, Bool.or_eq_true, not_or, Bool.not_eq_true]
      at removed
    obtain ⟨⟨links, reports⟩, rfl⟩ := removed
    exact { sound with
      tables := tables
      component := fun row member => sound.component row (mem_of_mem_filter member).1
      componentLink := fun row member => (sound.componentLink row member).imp_right fun there =>
        refers_filter there (eq_false_of_not_any links member)
      report := fun row member => (sound.report row member).imp_right fun there =>
        refers_filter there (eq_false_of_not_any reports member) }
  | problems =>
    cases removed
    exact { sound with
      tables := tables
      componentLink := fun row member => by
        obtain ⟨there, stays⟩ := mem_of_mem_filter_entries member
        exact (sound.componentLink row there).imp_left fun problem =>
          refers_filter problem (by simpa using stays)
      releaseLink := fun row member => by
        obtain ⟨there, stays⟩ := mem_of_mem_filter_entries member
        exact (sound.releaseLink row there).imp_left fun problem =>
          refers_filter problem (by simpa using stays)
      report := fun row member => by
        obtain ⟨old, there, rfl⟩ := exists_of_mem_modify member
        rw [problem_detach, component_detach]
        refine (sound.report old there).imp_left fun belongs => ?_
        cases problem : old.problem with
        | none => rfl
        | some id =>
          rw [problem] at belongs
          by_cases removed : gone id = true
          · simp [Option.filter, removed]
          · simp only [Option.filter, removed, Bool.not_false, if_true]
            exact refers_filter belongs (by simpa using removed)
      bucket := fun granularity row member =>
        (sound.bucket granularity row member).imp_left refers_modify.trans
      ordered := fun row member => sound.ordered row (mem_of_mem_filter member).1 }
  | reports =>
    cases removed
    exact { sound with
      tables := tables
      report := fun row member => sound.report row (mem_of_mem_filter member).1
      bucket := fun granularity row member => by
        rw [buckets, History.get_map] at member
        obtain ⟨there, stays⟩ := mem_of_mem_filter_entries member
        exact (sound.bucket granularity row there).imp_left fun report =>
          refers_filter report (by simpa using stays)
      positive := fun granularity row member => by
        rw [buckets, History.get_map] at member
        exact sound.positive granularity row (mem_of_mem_filter_entries member).1 }
  | componentLinks => cases removed; exact sound
  | releaseLinks => cases removed; exact sound
  | history granularity => cases removed; exact sound

/-- To remove a row keeps a store sound. -/
lemma delete_keeps_sound (table : TableName) (id : Int) : (delete table id).Keeps Sound := by
  refine (atomic_statement _).keeps (fun _ prepared sound => sound.prepared prepared) ?_
  intro store n after sound yields
  obtain ⟨-, -, -, -, ⟨-, -, removed⟩ | ⟨-, -, rfl⟩⟩ := delete_yields_iff.1 yields
  · exact sound.removeRows removed
  · exact sound

/-! ### Commands and runs keep a store sound -/

/-- A command that leaves the tables themselves alone keeps a store sound. -/
theorem Sound.step {store : Store} (sound : store.Sound) {command : Command}
    (keeps : command.keepsTables = true) : (store.step command).2.Sound := by
  unfold Store.step
  cases command with
  | insertOpSys name => exact (insertOpSys_keeps_sound name).map _ store sound
  | insertRelease opsys version =>
    exact (insertRelease_keeps_sound opsys version).map _ store sound
  | insertComponent opsys name =>
    exact (insertComponent_keeps_sound opsys name).map _ store sound
  | insertProblem first last => exact (insertProblem_keeps_sound first last).map _ store sound
  | insertReport problem component first =>
    exact (insertReport_keeps_sound problem component first).map _ store sound
  | linkComponent problem component order =>
    exact (linkComponent_keeps_sound problem component order).map _ store sound
  | linkRelease problem release fix =>
    exact (linkRelease_keeps_sound problem release fix).map _ store sound
  | record report release date count =>
    exact (record_keeps_sound report release date count).map _ store sound
  | delete table id => exact (delete_keeps_sound table id).map _ store sound
  | drop table => cases keeps
  | migrate => cases keeps

/-- Runs of such commands keep a store sound. -/
theorem Sound.run {store : Store} (sound : store.Sound) {commands : List Command}
    (keeps : ∀ command ∈ commands, command.keepsTables = true) : (store.run commands).Sound := by
  induction commands generalizing store with
  | nil => exact sound
  | cons command rest ih =>
    rw [run_cons]
    exact ih (sound.step (keeps command List.mem_cons_self)) fun c member =>
      keeps c (List.mem_cons_of_mem command member)

/-- The last day of 2024, a Tuesday. -/
def newYearsEve : Date := ⟨739616, by decide, by decide⟩

/-- The first day of 2025, in the same week. -/
def newYearsDay : Date := ⟨739617, by decide, by decide⟩

/-- Commands that enter one report of a problem, after all that it refers to. -/
def oneReport (date : Date) : List Command :=
  [.insertOpSys "linux", .insertRelease 1 "9", .insertComponent 1 "kernel",
    .insertProblem date date, .insertReport (some 1) 1 date]

end Store

end CrashTriage
