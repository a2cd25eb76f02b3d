import CrashTriage.Proofs.Trace
import CrashTriage.Store.Lookup
import Mathlib.Data.List.Pairwise

/-!
# Names, keys and references

Operating systems are told apart by their names, releases by operating system and version, and
components by operating system and name. A register of such rows changes in two ways only: rows are
removed, or one row is entered that differs from all rows before it. So after every run the rows
differ, and every reference leads to a row. A row that has just been entered is referred to by
nothing, also when its id belonged to another row before.
-/

namespace CrashTriage

/-! ### Rows that differ -/

/-- How a list of rows changes when it is to have no two rows that agree: rows are removed, or one
is entered at the end that differs from all rows before it. -/
inductive Renewed {ρ : Type} (Differ : ρ → ρ → Prop) (before : List ρ) : List ρ → Prop
  | fewer {after : List ρ} (removed : after.Sublist before) : Renewed Differ before after
  | more {row : ρ} (new : ∀ old ∈ before, Differ old row) : Renewed Differ before (before ++ [row])

/-- A list in which rows differ still does when it is renewed. -/
lemma Renewed.pairwise {ρ : Type} {Differ : ρ → ρ → Prop} {before after : List ρ}
    (renewed : Renewed Differ before after) (differ : before.Pairwise Differ) :
    after.Pairwise Differ := by
  cases renewed with
  | fewer removed => exact differ.sublist removed
  | more new =>
    refine List.pairwise_append.2 ⟨differ, List.pairwise_singleton _ _, ?_⟩
    intro old member row entered
    rw [List.mem_singleton.1 entered]
    exact new old member

/-- Operating systems differ in their names. -/
def OpSys.Differ (a b : OpSys) : Prop := a.name ≠ b.name

instance : Std.Symm OpSys.Differ where
  symm _ _ := Ne.symm

/-- Releases differ in their versions unless they belong to different operating systems. -/
def Release.Differ (a b : Release) : Prop := a.opsys = b.opsys → a.version ≠ b.version

/-- Components differ in their names unless they belong to different operating systems. -/
def Component.Differ (a b : Component) : Prop := a.opsys = b.opsys → a.name ≠ b.name

namespace Store

open StoreM

variable {store after : Store}

/-! ### Stores whose names differ -/

/-- A store in which no two operating systems, releases or components have the same name. -/
structure WellNamed (store : Store) : Prop where
  opsys : (rowsOf store.opsys).Pairwise OpSys.Differ
  release : (rowsOf store.releases).Pairwise Release.Differ
  component : (rowsOf store.components).Pairwise Component.Differ

lemma wellNamed_migrated : migrated.WellNamed where
  opsys := .nil
  release := .nil
  component := .nil

/-- Names still differ in a store whose operating systems, releases and components are renewed. -/
lemma WellNamed.renewed (named : store.WellNamed)
    (opsys : Renewed OpSys.Differ (rowsOf store.opsys) (rowsOf after.opsys))
    (release : Renewed Release.Differ (rowsOf store.releases) (rowsOf after.releases))
    (component : Renewed Component.Differ (rowsOf store.components) (rowsOf after.components)) :
    after.WellNamed where
  opsys := opsys.pairwise named.opsys
  release := release.pairwise named.release
  component := component.pairwise named.component

/-- Rows that have not changed are renewed. -/
lemma renewed_of_eq {ρ : Type} [Identified ρ] {Differ : ρ → ρ → Prop}
    {before after : Option (Register ρ)} (same : after = before) :
    Renewed Differ (rowsOf before) (rowsOf after) := by
  rw [same]
  exact .fewer (.refl _)

/-- Rows of which some have been removed are renewed. -/
lemma renewed_filter {ρ : Type} [Identified ρ] {Differ : ρ → ρ → Prop}
    {register : Option (Register ρ)} {keep : ρ → Bool} :
    Renewed Differ (rowsOf register) (rowsOf (register.map (·.filter keep))) := by
  refine .fewer ?_
  cases register with
  | none => exact .refl _
  | some table => exact List.filter_sublist

/-- Rows to which one has been entered that differs from them are renewed. -/
lemma renewed_insert {ρ : Type} [Identified ρ] {Differ : ρ → ρ → Prop}
    {register : Option (Register ρ)} {table : Register ρ} {row : ρ}
    {h : Identified.id row = table.nextId} (found : register = some table)
    (new : ∀ old ∈ table.rows, Differ old row) :
    Renewed Differ (rowsOf register) (rowsOf (some (table.insert row h))) := by
  rw [found]
  exact .more new

/-- To remove rows removes operating systems, releases and components or leaves them alone. -/
lemma WellNamed.removeRows (named : store.WellNamed) {table : TableName} {gone : Int → Bool}
    (removed : store.removeRows table gone = .ok after) : after.WellNamed := by
  cases table with
  | opsys =>
    simp only [Store.removeRows, refuse_eq_ok_iff] at removed
    obtain ⟨-, rfl⟩ := removed
    exact named.renewed renewed_filter (renewed_of_eq rfl) (renewed_of_eq rfl)
  | releases =>
    simp only [Store.removeRows, refuse_eq_ok_iff] at removed
    obtain ⟨-, rfl⟩ := removed
    exact named.renewed (renewed_of_eq rfl) renewed_filter (renewed_of_eq rfl)
  | components =>
    simp only [Store.removeRows, refuse_eq_ok_iff] at removed
    obtain ⟨-, rfl⟩ := removed
    exact named.renewed (renewed_of_eq rfl) (renewed_of_eq rfl) renewed_filter
  | _ =>
    cases removed
    exact named.renewed (renewed_of_eq rfl) (renewed_of_eq rfl) (renewed_of_eq rfl)

/-- What a command that leaves the tables themselves alone yields keeps the names different. -/
lemma WellNamed.of_yields (named : store.WellNamed) {command : Command}
    (keeps : command.keepsTables = true) {reply : Reply}
    (yields : command.perform.Yields store reply after) : after.WellNamed := by
  have alone {changed : Store} (opsys : changed.opsys = store.opsys)
      (releases : changed.releases = store.releases)
      (components : changed.components = store.components) : changed.WellNamed :=
    named.renewed (renewed_of_eq opsys) (renewed_of_eq releases) (renewed_of_eq components)
  cases command with
  | insertOpSys name =>
    obtain ⟨id, entered, -⟩ := map_yields_iff.1 yields
    obtain ⟨table, found, new, -, rfl⟩ := insertOpSys_yields_iff.1 entered
    exact named.renewed (renewed_insert found new) (renewed_of_eq rfl) (renewed_of_eq rfl)
  | insertRelease opsys version =>
    obtain ⟨id, entered, -⟩ := map_yields_iff.1 yields
    obtain ⟨table, found, -, new, -, -, rfl⟩ := insertRelease_yields_iff.1 entered
    exact named.renewed (renewed_of_eq rfl) (renewed_insert found new) (renewed_of_eq rfl)
  | insertComponent opsys name =>
    obtain ⟨id, entered, -⟩ := map_yields_iff.1 yields
    obtain ⟨table, found, -, new, -, -, rfl⟩ := insertComponent_yields_iff.1 entered
    exact named.renewed (renewed_of_eq rfl) (renewed_of_eq rfl) (renewed_insert found new)
  | insertProblem first last =>
    obtain ⟨id, entered, -⟩ := map_yields_iff.1 yields
    obtain ⟨table, -, -, -, rfl⟩ := insertProblem_yields_iff.1 entered
    exact alone rfl rfl rfl
  | insertReport problem component first =>
    obtain ⟨id, entered, -⟩ := map_yields_iff.1 yields
    obtain ⟨table, -, -, -, -, rfl⟩ := insertReport_yields_iff.1 entered
    exact alone rfl rfl rfl
  | linkComponent problem component order =>
    obtain ⟨_, linked, -⟩ := map_yields_iff.1 yields
    obtain ⟨table, -, -, ⟨-, rfl⟩ | ⟨fresh, -, rfl⟩⟩ := linkComponent_yields_iff.1 linked
    · exact named
    · exact alone rfl rfl rfl
  | linkRelease problem release fix =>
    obtain ⟨_, linked, -⟩ := map_yields_iff.1 yields
    obtain ⟨table, -, -, ⟨-, rfl⟩ | ⟨fresh, -, rfl⟩⟩ := linkRelease_yields_iff.1 linked
    · exact alone rfl rfl rfl
    · exact alone rfl rfl rfl
  | record report release date count =>
    obtain ⟨_, recorded, -⟩ := map_yields_iff.1 yields
    have frame := record_frame recorded
    rw [frame]
    exact alone rfl rfl rfl
  | delete table id =>
    obtain ⟨n, deleted, -⟩ := map_yields_iff.1 yields
    obtain ⟨-, -, -, -, ⟨-, -, removed⟩ | ⟨-, -, rfl⟩⟩ := delete_yields_iff.1 deleted
    · exact named.removeRows removed
    · exact named
  | drop table => cases keeps
  | migrate => cases keeps

/-- Every command that leaves the tables themselves alone keeps the names different, also when it
fails. -/
lemma WellNamed.step (named : store.WellNamed) {command : Command}
    (keeps : command.keepsTables = true) : (store.step command).2.WellNamed := by
  refine (Command.atomic_perform keeps).keeps ?_ ?_ store named
  · intro before prepared held
    exact ⟨held.opsys, held.release, held.component⟩
  · intro before reply changed held yields
    exact held.of_yields keeps yields

/-- Names differ after every run of such commands. -/
lemma wellNamed_run (commands : List Command)
    (keeps : ∀ command ∈ commands, command.keepsTables = true) :
    (migrated.run commands).WellNamed :=
  trace_induction (P := fun _ store => store.WellNamed) wellNamed_migrated
    (fun _ _ _ _ keepsTables named => named.step keepsTables) commands keeps

/-! ### Names lead to one release -/

/-- An empty text selects every value and any other text the value that is equal to it. -/
lemma selects_some_iff {wanted value : String} (nonempty : wanted ≠ "") :
    selects (some wanted) value = true ↔ value = wanted := by
  have proper : wanted.isEmpty = false := by
    rw [Bool.eq_false_iff]
    intro empty
    exact nonempty (String.isEmpty_iff.1 empty)
  simp only [selects, proper, Bool.false_or, decide_eq_true_eq]
  exact eq_comm

/-- When the names of a store differ, the name of an operating system and a version lead to one
release at most. -/
lemma WellNamed.releaseIds_length_le_one (named : store.WellNamed) (sound : store.Sound)
    {name version : String} (hname : name ≠ "") (hversion : version ≠ "") :
    ∃ ids, store.releaseIds (some name) (some version) = .ok ids ∧ ids.length ≤ 1 := by
  obtain ⟨releases, foundReleases⟩ := Option.isSome_iff_exists.1 (sound.tables .releases)
  obtain ⟨systems, foundSystems⟩ := Option.isSome_iff_exists.1 (sound.tables .opsys)
  have namedSystems := named.opsys
  have namedReleases := named.release
  rw [foundSystems, rowsOf_some] at namedSystems
  rw [foundReleases, rowsOf_some] at namedReleases
  refine ⟨_, by simp only [releaseIds, foundReleases, foundSystems, present]; rfl, ?_⟩
  rw [List.length_map]
  refine length_le_one_of_pairwise (namedReleases.filter _) ?_
  intro a ha b hb differ
  simp only [List.mem_filter, Bool.and_eq_true, selects_some_iff hname, selects_some_iff hversion,
    Option.any_eq_true] at ha hb
  obtain ⟨-, versionA, systemA, reachedA, nameA⟩ := ha
  obtain ⟨-, versionB, systemB, reachedB, nameB⟩ := hb
  obtain ⟨memberA, idA⟩ := Register.find?_eq_some_iff.1 reachedA
  obtain ⟨memberB, idB⟩ := Register.find?_eq_some_iff.1 reachedB
  have same : systemA = systemB := by
    by_contra apart
    exact namedSystems.forall memberA memberB apart (nameA.trans nameB.symm)
  have opsys : a.opsys = b.opsys := by
    rw [← idA, ← idB, same]
  exact differ opsys (versionA.trans versionB.symm)

/-! ### Rows that have just been entered -/

/-- What refers to a problem: its reports, through which alone it has buckets, and its links. -/
def RefersToProblem (store : Store) (id : Int) : Prop :=
  (∃ row ∈ rowsOf store.reports, row.problem = some id) ∨
    (∃ link ∈ entriesOf store.componentLinks, link.problem = id) ∨
    ∃ link ∈ entriesOf store.releaseLinks, link.problem = id

/-- What refers to a report: its buckets, at every granularity. -/
def RefersToReport (store : Store) (id : Int) : Prop :=
  ∃ granularity, ∃ bucket ∈ store.buckets granularity, bucket.report = id

/-- Nothing refers to a problem that has just been entered in a sound store. -/
lemma Sound.not_refersToProblem_of_entered (sound : store.Sound) {first last : Date} {id : Int}
    (entered : (insertProblem first last).Yields store id after) : ¬ RefersToProblem after id := by
  obtain ⟨table, found, -, rfl, rfl⟩ := insertProblem_yields_iff.1 entered
  have fresh := nextId_not_referred found
  rintro (⟨row, member, own⟩ | ⟨link, member, own⟩ | ⟨link, member, own⟩)
  · have there := (sound.report row member).1
    rw [own, Option.all_some, fresh] at there
    cases there
  · have there := (sound.componentLink link member).1
    rw [own, fresh] at there
    cases there
  · have there := (sound.releaseLink link member).1
    rw [own, fresh] at there
    cases there

/-- Nothing refers to a report that has just been entered in a sound store. -/
lemma Sound.not_refersToReport_of_entered (sound : store.Sound) {problem : Option Int}
    {component : Int} {first : Date} {id : Int}
    (entered : (insertReport problem component first).Yields store id after) :
    ¬ RefersToReport after id := by
  obtain ⟨table, found, -, -, rfl, rfl⟩ := insertReport_yields_iff.1 entered
  have fresh := nextId_not_referred found
  rintro ⟨granularity, bucket, member, own⟩
  have there := (sound.bucket granularity bucket member).1
  rw [own, fresh] at there
  cases there

/-- A command that replies with an id has entered a row under that id. -/
lemma yields_of_entered {α : Type} {x : StoreM α} {reply : α → Reply} {a : α}
    (injective : ∀ b, reply b = reply a → b = a)
    (replied : ((reply <$> x) store).1 = .ok (reply a)) :
    x.Yields store a ((reply <$> x) store).2 := by
  obtain ⟨b, yields, same⟩ := map_yields_iff.1 ⟨replied, rfl⟩
  rw [← injective b same]
  exact yields

/-! ### References and keys of a store -/

/-- Every reference of the schema leads to a row. -/
structure ReferencesLead (store : Store) : Prop where
  release : ∀ row ∈ rowsOf store.releases, ∃ system ∈ rowsOf store.opsys, system.id = row.opsys
  component : ∀ row ∈ rowsOf store.components,
    ∃ system ∈ rowsOf store.opsys, system.id = row.opsys
  componentLink : ∀ link ∈ entriesOf store.componentLinks,
    (∃ problem ∈ rowsOf store.problems, problem.id = link.problem) ∧
      ∃ component ∈ rowsOf store.components, component.id = link.component
  releaseLink : ∀ link ∈ entriesOf store.releaseLinks,
    (∃ problem ∈ rowsOf store.problems, problem.id = link.problem) ∧
      ∃ release ∈ rowsOf store.releases, release.id = link.release
  report : ∀ row ∈ rowsOf store.reports,
    (∀ id, row.problem = some id → ∃ problem ∈ rowsOf store.problems, problem.id = id) ∧
      ∃ component ∈ rowsOf store.components, component.id = row.component
  bucket : ∀ granularity, ∀ bucket ∈ store.buckets granularity,
    (∃ report ∈ rowsOf store.reports, report.id = bucket.report) ∧
      ∃ release ∈ rowsOf store.releases, release.id = bucket.release

/-- No two rows of a table have the same key or the same name. -/
structure KeysDiffer (store : Store) : Prop where
  opsys : (rowsOf store.opsys).Pairwise fun a b => a.name ≠ b.name
  release : (rowsOf store.releases).Pairwise fun a b => (a.opsys, a.version) ≠ (b.opsys, b.version)
  component : (rowsOf store.components).Pairwise fun a b => (a.opsys, a.name) ≠ (b.opsys, b.name)
  componentLink : (entriesOf store.componentLinks).Pairwise fun a b =>
    (a.problem, a.component) ≠ (b.problem, b.component)
  releaseLink : (entriesOf store.releaseLinks).Pairwise fun a b =>
    (a.problem, a.release) ≠ (b.problem, b.release)
  bucket : ∀ granularity, (store.buckets granularity).Pairwise fun a b =>
    (a.report, a.release, a.start) ≠ (b.report, b.release, b.start)

/-- The references of a sound store lead to rows. -/
lemma Sound.referencesLead (sound : store.Sound) : store.ReferencesLead where
  release row member := refers_iff.1 (sound.release row member)
  component row member := refers_iff.1 (sound.component row member)
  componentLink link member :=
    (sound.componentLink link member).imp refers_iff.1 refers_iff.1
  releaseLink link member := (sound.releaseLink link member).imp refers_iff.1 refers_iff.1
  report row member := by
    obtain ⟨problem, component⟩ := sound.report row member
    refine ⟨fun id own => ?_, refers_iff.1 component⟩
    rw [own, Option.all_some] at problem
    exact refers_iff.1 problem
  bucket granularity bucket member :=
    (sound.bucket granularity bucket member).imp refers_iff.1 refers_iff.1

/-- When the names of a store differ, so do all keys. -/
lemma WellNamed.keysDiffer (named : store.WellNamed) : store.KeysDiffer where
  opsys := named.opsys
  release := named.release.imp fun differ same => differ (Prod.mk.inj same).1 (Prod.mk.inj same).2
  component :=
    named.component.imp fun differ same => differ (Prod.mk.inj same).1 (Prod.mk.inj same).2
  componentLink := pairwise_entriesOf store.componentLinks
  releaseLink := pairwise_entriesOf store.releaseLinks
  bucket := pairwise_buckets store

/-- After any run of commands that enter, link, record or remove rows, every reference leads to a
row and no two rows have the same key or name. So the name of an operating system and a version,
neither of them empty, lead to one release at most; and nothing refers to a problem or a report
that is entered next, whatever its id has stood for before. -/
theorem references_and_keys_hold (commands : List Command)
    (keeps : ∀ command ∈ commands, command.keepsTables = true) :
    (migrated.run commands).ReferencesLead ∧ (migrated.run commands).KeysDiffer ∧
    (∀ name version : String, name ≠ "" → version ≠ "" →
      ∃ ids, (migrated.run commands).releaseIds (some name) (some version) = .ok ids ∧
        ids.length ≤ 1) ∧
    (∀ first last id,
      ((migrated.run commands).step (.insertProblem first last)).1 = .ok (.entered id) →
        ¬ RefersToProblem ((migrated.run commands).step (.insertProblem first last)).2 id) ∧
    ∀ problem component first id,
      ((migrated.run commands).step (.insertReport problem component first)).1
          = .ok (.entered id) →
        ¬ RefersToReport
          ((migrated.run commands).step (.insertReport problem component first)).2 id := by
  have sound : (migrated.run commands).Sound := sound_migrated.run keeps
  have named : (migrated.run commands).WellNamed := wellNamed_run commands keeps
  have injective (id other : Int) (same : Reply.entered other = .entered id) : other = id :=
    Reply.entered.inj same
  refine ⟨sound.referencesLead, named.keysDiffer, ?_, ?_, ?_⟩
  · intro name version hname hversion
    exact named.releaseIds_length_le_one sound hname hversion
  · intro first last id entered
    exact sound.not_refersToProblem_of_entered (yields_of_entered (injective id) entered)
  · intro problem component first id entered
    exact sound.not_refersToReport_of_entered (yields_of_entered (injective id) entered)

/-- Commands that enter a problem with a report, links and occurrences and remove the problem. -/
def removedProblem : List Command :=
  oneReport newYearsEve ++ [.linkComponent 1 1 0, .linkRelease 1 1 (some "9.1"),
    .record 1 1 newYearsEve 2, .delete .problems 1]

/-- A problem that is entered under the id of a removed one has none of its reports and links. -/
theorem keys_of_removedProblem :
    ((migrated.run removedProblem).step (.insertProblem newYearsDay newYearsDay)).1
        = .ok (.entered 1) ∧
      ¬ RefersToProblem
        ((migrated.run removedProblem).step (.insertProblem newYearsDay newYearsDay)).2 1 ∧
      (∃ report ∈ rowsOf (migrated.run removedProblem).reports, report.problem = none) ∧
      ∃ ids, (migrated.run removedProblem).releaseIds (some "linux") (some "9") = .ok ids ∧
        ids.length ≤ 1 := by
  have hold := references_and_keys_hold removedProblem (by decide)
  have entered : ((migrated.run removedProblem).step (.insertProblem newYearsDay newYearsDay)).1
      = .ok (.entered 1) := rfl
  refine ⟨entered, hold.2.2.2.1 _ _ _ entered, ?_, hold.2.2.1 "linux" "9" (by decide) (by decide)⟩
  exact ⟨⟨1, none, 1, "core", newYearsEve, newYearsEve, .exact 2⟩, List.mem_singleton.2 rfl, rfl⟩

end Store

end CrashTriage
