import CrashTriage.Store.Command
import Mathlib.Tactic.Lemma

/-!
# What statements do to the store

A computation on the store yields a result and a changed store, or fails. This file inverts the
computations from which commands are built: for every statement it names the condition under which
the statement succeeds, the result and the store that it leaves. Later files reason with these
equivalences and do not open the statements again.
-/

namespace CrashTriage

/-! ### Computations that may fail -/

/-- A sequence succeeds when both of its parts do. -/
lemma bind_eq_ok_iff {α β : Type} {x : Except Failure α} {f : α → Except Failure β} {b : β} :
    (x >>= f) = .ok b ↔ ∃ a, x = .ok a ∧ f a = .ok b := by
  cases x with
  | error failure => simp [bind, Except.bind]
  | ok a => simp [bind, Except.bind]

lemma ok_bind {α β : Type} {a : α} {f : α → Except Failure β} : (Except.ok a >>= f) = f a := rfl

/-- A function of a result succeeds when the computation of the result does. -/
lemma map_eq_ok_iff {α β : Type} {x : Except Failure α} {f : α → β} {b : β} :
    (f <$> x) = .ok b ↔ ∃ a, x = .ok a ∧ f a = b := by
  cases x with
  | error failure => simp [Functor.map, Except.map]
  | ok a => simp [Functor.map, Except.map]

/-- A computation that is refused under a condition succeeds only without it. -/
lemma unless_eq_ok_iff {α : Type} {p : Prop} [Decidable p] {failure : Failure}
    {stop : PUnit → Except Failure α} {rest : Except Failure α} {a : α} :
    (if p then (throw failure >>= stop) else rest) = .ok a ↔ ¬ p ∧ rest = .ok a := by
  by_cases hp : p
  · simp [hp, throw, throwThe, MonadExceptOf.throw, bind, Except.bind]
  · simp [hp]

/-- A row is entered when it is new and nothing refuses it; when it is there already, something else
is done. -/
lemma enter_eq_ok_iff {fresh refused : Prop} [Decidable fresh] [Decidable refused]
    {failure : Failure} {stop : fresh → PUnit → Except Failure (Unit × Store)}
    {entered : fresh → Store} {other after : Store} {u : Unit} :
    (if h : fresh then
        (if refused then (throw failure >>= stop h) else pure ((), entered h))
      else pure ((), other)) = Except.ok (u, after) ↔
      (¬ fresh ∧ other = after) ∨ ∃ h : fresh, ¬ refused ∧ entered h = after := by
  by_cases new : fresh
  · rw [dif_pos new, unless_eq_ok_iff]
    constructor
    · rintro ⟨allowed, same⟩
      exact .inr ⟨new, allowed, (Prod.mk.inj (Except.ok.inj same)).2⟩
    · rintro (⟨old, -⟩ | ⟨-, allowed, rfl⟩)
      · exact absurd new old
      · exact ⟨allowed, rfl⟩
  · rw [dif_neg new]
    constructor
    · intro same
      exact .inl ⟨new, (Prod.mk.inj (Except.ok.inj same)).2⟩
    · rintro (⟨-, rfl⟩ | ⟨fresh, -⟩)
      · rfl
      · exact absurd fresh new

lemma pure_eq_ok_iff {α : Type} {a b : α} : (pure a : Except Failure α) = .ok b ↔ a = b := by
  simp [pure, Except.pure]

lemma present_eq_ok_iff {α : Type} {name : TableName} {table : Option α} {found : α} :
    present name table = .ok found ↔ table = some found := by
  cases table <;> simp [present]

lemma inRange_eq_ok_iff {date : Option Date} {found : Date} :
    inRange date = .ok found ↔ date = some found := by
  cases date <;> simp [inRange]

lemma bindable_eq_ok_iff {values : Nat} {u : Unit} :
    bindable values = .ok u ↔ values ≤ maxBound := by
  unfold bindable
  split <;> simp_all

lemma nestable_eq_ok_iff {depth : Nat} {u : Unit} :
    nestable depth = .ok u ↔ depth ≤ maxDepth := by
  unfold nestable
  split <;> simp_all

namespace StoreM

variable {α β : Type} {store after : Store}

/-- A computation succeeds with a result and leaves a store. -/
def Yields (x : StoreM α) (store : Store) (a : α) (after : Store) : Prop :=
  (x store).1 = .ok a ∧ (x store).2 = after

/-- A statement yields what its body computes. -/
lemma statement_yields_iff {body : Store → Except Failure (α × Store)} {a : α} :
    (statement body).Yields store a after ↔ body store = .ok (a, after) := by
  unfold Yields statement
  rcases body store with failure | ⟨b, changed⟩ <;> simp

/-- A transaction yields what its body yields. -/
lemma transaction_yields_iff {body : StoreM α} {a : α} :
    (transaction body).Yields store a after ↔ body.Yields store a after := by
  unfold Yields transaction
  rcases body store with ⟨failure | b, changed⟩ <;> simp

/-- A sequence hands the store of its first part to its second part, unless the first one fails. -/
lemma bind_apply (x : StoreM α) (f : α → StoreM β) (store : Store) :
    (x >>= f) store = match x store with
      | (.ok a, middle) => f a middle
      | (.error failure, middle) => (.error failure, middle) := by
  simp only [bind, ExceptT.bind, ExceptT.mk, ExceptT.bindCont, StateT.bind]
  rcases x store with ⟨failure | a, middle⟩ <;> rfl

/-- A function of the result of a computation leaves the store of that computation. -/
lemma map_apply (x : StoreM α) (f : α → β) (store : Store) :
    (f <$> x) store = match x store with
      | (.ok a, middle) => (.ok (f a), middle)
      | (.error failure, middle) => (.error failure, middle) := by
  simp only [Functor.map, ExceptT.map, ExceptT.mk, bind, StateT.bind]
  rcases x store with ⟨failure | a, middle⟩ <;> rfl

/-- A sequence yields what its second part yields on the store that its first part leaves. -/
lemma bind_yields_iff {x : StoreM α} {f : α → StoreM β} {b : β} :
    (x >>= f).Yields store b after ↔
      ∃ a middle, x.Yields store a middle ∧ (f a).Yields middle b after := by
  unfold Yields
  rw [bind_apply]
  rcases x store with ⟨failure | a, middle⟩
  · simp
  · constructor
    · intro yields
      exact ⟨a, middle, ⟨rfl, rfl⟩, yields⟩
    · rintro ⟨c, last, ⟨result, rfl⟩, yields⟩
      cases result
      exact yields

/-- A function of a result is yielded with the store of that result. -/
lemma map_yields_iff {x : StoreM α} {f : α → β} {b : β} :
    (f <$> x).Yields store b after ↔ ∃ a, x.Yields store a after ∧ f a = b := by
  unfold Yields
  rw [map_apply]
  rcases x store with ⟨failure | a, middle⟩
  · simp
  · constructor
    · rintro ⟨result, last⟩
      exact ⟨a, ⟨rfl, last⟩, Except.ok.inj result⟩
    · rintro ⟨c, ⟨same, last⟩, result⟩
      simp_all

/-! ### Properties that computations keep -/

/-- A computation that leaves the tables alone when it fails. -/
def Atomic (x : StoreM α) : Prop :=
  ∀ store failure, (x store).1 = .error failure →
    (x store).2 = { store with prepared := (x store).2.prepared }

/-- A property of stores that a computation keeps, whether it succeeds or fails. -/
def Keeps (P : Store → Prop) (x : StoreM α) : Prop :=
  ∀ store, P store → P (x store).2

/-- A statement that fails changes nothing. -/
lemma atomic_statement (body : Store → Except Failure (α × Store)) : Atomic (statement body) := by
  intro store failure failed
  unfold statement at failed ⊢
  cases result : body store with
  | error cause => rfl
  | ok pair =>
    rw [result] at failed
    cases failed

/-- A transaction that fails changes no table, whatever its body does. -/
lemma atomic_transaction (body : StoreM α) : Atomic (transaction body) := by
  intro store failure failed
  unfold transaction at failed ⊢
  rcases result : body store with ⟨cause | b, changed⟩
  · rfl
  · rw [result] at failed
    cases failed

/-- A function of a result is as atomic as the computation that gives the result. -/
lemma Atomic.map {x : StoreM α} (atomic : x.Atomic) (f : α → β) : (f <$> x).Atomic := by
  intro store failure failed
  have kept := atomic store failure
  rw [map_apply] at failed ⊢
  rcases result : x store with ⟨cause | a, middle⟩
  · rw [result] at failed kept
    cases failed
    exact kept rfl
  · rw [result] at failed
    cases failed

/-- What an atomic computation keeps is decided by what it yields, as long as it does not depend
on the prepared statements. -/
lemma Atomic.keeps {P : Store → Prop} {x : StoreM α} (atomic : x.Atomic)
    (unprepared : ∀ store prepared, P store → P { store with prepared := prepared })
    (h : ∀ store a after, P store → x.Yields store a after → P after) : x.Keeps P := by
  intro store before
  cases outcome : (x store).1 with
  | error failure =>
    rw [atomic store failure outcome]
    exact unprepared _ _ before
  | ok a => exact h store a _ before ⟨outcome, rfl⟩

/-- A sequence keeps what its parts keep. -/
lemma Keeps.bind {P : Store → Prop} {x : StoreM α} {f : α → StoreM β} (first : x.Keeps P)
    (rest : ∀ a, (f a).Keeps P) : (x >>= f).Keeps P := by
  intro store before
  have middle := first store before
  rw [bind_apply]
  rcases result : x store with ⟨failure | a, changed⟩
  · rw [result] at middle
    exact middle
  · rw [result] at middle
    exact rest a changed middle

/-- A transaction keeps what its body keeps, as long as this does not depend on the prepared
statements. -/
lemma Keeps.transaction {P : Store → Prop} {body : StoreM α} (kept : body.Keeps P)
    (unprepared : ∀ store prepared, P store → P { store with prepared := prepared }) :
    (transaction body).Keeps P := by
  refine (atomic_transaction body).keeps unprepared fun store a after before yields => ?_
  have last := (transaction_yields_iff.1 yields).2
  rw [← last]
  exact kept store before

/-- A function of a result is computed without a further change. -/
lemma Keeps.map {P : Store → Prop} {x : StoreM α} (kept : x.Keeps P) (f : α → β) :
    (f <$> x).Keeps P := by
  intro store before
  have middle := kept store before
  rw [map_apply]
  rcases result : x store with ⟨failure | a, changed⟩ <;> rw [result] at middle <;> exact middle

end StoreM

/-- Another fix does not change the key of a link. -/
lemma ReleaseLink.key_withFix (fix : Option String) (link : ReleaseLink) :
    Keyed.key (link.withFix fix) = Keyed.key link := rfl

namespace Store

open StoreM

variable {store after : Store}

/-! ### Conditions that statements check -/

/-- The tables that a table refers to are required one by one. -/
lemma requireParents_eq_ok_iff {table : TableName} {u : Unit} :
    store.requireParents table = .ok u ↔ ∀ parent ∈ table.parents, store.has parent = true := by
  unfold requireParents
  split
  · rename_i parent found
    have absent := List.find?_some found
    have member := List.mem_of_find?_eq_some found
    exact ⟨nofun, fun h => by simp [h parent member] at absent⟩
  · rename_i none
    simpa using none

/-! ### Statements that enter rows -/

/-- An operating system is entered when its name is new. -/
lemma insertOpSys_yields_iff {name : String} {id : Int} :
    (insertOpSys name).Yields store id after ↔
      ∃ table, store.opsys = some table ∧ (∀ row ∈ table.rows, row.name ≠ name) ∧
        table.nextId = id ∧
        { store with opsys := some (table.insert ⟨table.nextId, name⟩ rfl) } = after := by
  unfold insertOpSys
  rw [statement_yields_iff]
  simp only [bind_eq_ok_iff, present_eq_ok_iff, unless_eq_ok_iff, pure_eq_ok_iff]
  simp

/-- A release is entered when its operating system is present and its version is new there. -/
lemma insertRelease_yields_iff {opsys : Int} {version : String} {id : Int} :
    (insertRelease opsys version).Yields store id after ↔
      ∃ table, store.releases = some table ∧
        (∀ parent ∈ TableName.releases.parents, store.has parent = true) ∧
        (∀ row ∈ table.rows, row.opsys = opsys → row.version ≠ version) ∧
        refers store.opsys opsys = true ∧ table.nextId = id ∧
        { store with
          releases := some (table.insert ⟨table.nextId, opsys, version, "ACTIVE"⟩ rfl) }
          = after := by
  unfold insertRelease
  rw [statement_yields_iff]
  simp only [bind_eq_ok_iff, present_eq_ok_iff, unless_eq_ok_iff, requireParents_eq_ok_iff,
    pure_eq_ok_iff]
  simp

/-- A component is entered when its operating system is present and its name is new there. -/
lemma insertComponent_yields_iff {opsys : Int} {name : String} {id : Int} :
    (insertComponent opsys name).Yields store id after ↔
      ∃ table, store.components = some table ∧
        (∀ parent ∈ TableName.components.parents, store.has parent = true) ∧
        (∀ row ∈ table.rows, row.opsys = opsys → row.name ≠ name) ∧
        refers store.opsys opsys = true ∧ table.nextId = id ∧
        { store with components := some (table.insert ⟨table.nextId, opsys, name⟩ rfl) }
          = after := by
  unfold insertComponent
  rw [statement_yields_iff]
  simp only [bind_eq_ok_iff, present_eq_ok_iff, unless_eq_ok_iff, requireParents_eq_ok_iff,
    pure_eq_ok_iff]
  simp

/-- A problem is entered when its first occurrence is not written after its last. -/
lemma insertProblem_yields_iff {first last : Date} {id : Int} :
    (insertProblem first last).Yields store id after ↔
      ∃ table, store.problems = some table ∧ last.isWrittenBefore first = false ∧
        table.nextId = id ∧
        { store with problems := some (table.insert ⟨table.nextId, first, last⟩ rfl) }
          = after := by
  unfold insertProblem
  rw [statement_yields_iff]
  simp only [bind_eq_ok_iff, present_eq_ok_iff, unless_eq_ok_iff, pure_eq_ok_iff]
  simp

/-- A report is entered when its component is present, and its problem if it has one. -/
lemma insertReport_yields_iff {problem : Option Int} {component : Int} {first : Date} {id : Int} :
    (insertReport problem component first).Yields store id after ↔
      ∃ table, store.reports = some table ∧
        (∀ parent ∈ TableName.reports.parents, store.has parent = true) ∧
        (problem.all (refers store.problems) = true ∧
          refers store.components component = true) ∧
        table.nextId = id ∧
        { store with
          reports := some (table.insert
            ⟨table.nextId, problem, component, "core", first, first, .exact 0⟩ rfl) }
          = after := by
  unfold insertReport
  rw [statement_yields_iff]
  simp only [bind_eq_ok_iff, present_eq_ok_iff, unless_eq_ok_iff, requireParents_eq_ok_iff,
    pure_eq_ok_iff]
  simp

/-! ### Statements that enter links -/

/-- A component is linked when it is linked already, or when both ends are present. -/
lemma linkComponent_yields_iff {problem component order : Int} {u : Unit} :
    (linkComponent problem component order).Yields store u after ↔
      ∃ table, store.componentLinks = some table ∧
        (∀ parent ∈ TableName.componentLinks.parents, store.has parent = true) ∧
        ((table.contains (problem, component) = true ∧ store = after) ∨
          ∃ h : table.contains (problem, component) = false,
            (refers store.problems problem = true ∧ refers store.components component = true) ∧
            { store with
              componentLinks := some (table.insert ⟨problem, component, order⟩ h) } = after) := by
  unfold linkComponent
  rw [statement_yields_iff]
  simp only [bind_eq_ok_iff, present_eq_ok_iff, requireParents_eq_ok_iff, enter_eq_ok_iff]
  simp only [Bool.not_eq_false, Bool.or_eq_true, Bool.not_eq_eq_eq_not, Bool.not_true, not_or,
    exists_and_left, exists_const]
  rfl

/-- A release is linked when it is linked already, and then takes the new fix, or when both ends
are present. -/
lemma linkRelease_yields_iff {problem release : Int} {fix : Option String} {u : Unit} :
    (linkRelease problem release fix).Yields store u after ↔
      ∃ table, store.releaseLinks = some table ∧
        (∀ parent ∈ TableName.releaseLinks.parents, store.has parent = true) ∧
        ((table.contains (problem, release) = true ∧
            { store with
              releaseLinks :=
                some (table.update (problem, release) (ReleaseLink.withFix fix)
                  (ReleaseLink.key_withFix fix)) } = after) ∨
          ∃ h : table.contains (problem, release) = false,
            (refers store.problems problem = true ∧ refers store.releases release = true) ∧
            { store with
              releaseLinks := some (table.insert ⟨problem, release, fix⟩ h) } = after) := by
  unfold linkRelease
  rw [statement_yields_iff]
  simp only [bind_eq_ok_iff, present_eq_ok_iff, requireParents_eq_ok_iff, enter_eq_ok_iff]
  simp only [Bool.not_eq_false, Bool.or_eq_true, Bool.not_eq_eq_eq_not, Bool.not_true, not_or,
    exists_and_left, exists_const]
  rfl

/-! ### Removal of a row -/

/-- A row is removed with what the schema removes along with it; an id without a row removes
nothing. -/
lemma delete_yields_iff {table : TableName} {id : Int} {n : Nat} :
    (delete table id).Yields store n after ↔
      store.has table = true ∧ hasIds table = true ∧
        (∀ parent ∈ table.parents, store.has parent = true) ∧
        store.requireCascades table = .ok () ∧
        ((id ∈ store.ids table ∧ n = 1 ∧ store.removeRows table (· = id) = .ok after) ∨
          (id ∉ store.ids table ∧ n = 0 ∧ store = after)) := by
  unfold delete
  rw [statement_yields_iff]
  simp only [bind_eq_ok_iff, unless_eq_ok_iff, requireParents_eq_ok_iff]
  constructor
  · rintro ⟨here, numbered, _, parents, _, cascades, h⟩
    refine ⟨by simpa using here, by simpa using numbered, parents, cascades, ?_⟩
    split at h
    · rename_i member
      obtain ⟨changed, removed, h⟩ := bind_eq_ok_iff.1 h
      obtain ⟨rfl, rfl⟩ := Prod.mk.inj (pure_eq_ok_iff.1 h)
      exact .inl ⟨member, rfl, removed⟩
    · rename_i missing
      obtain ⟨rfl, rfl⟩ := Prod.mk.inj (pure_eq_ok_iff.1 h)
      exact .inr ⟨missing, rfl, rfl⟩
  · rintro ⟨here, numbered, parents, cascades, h⟩
    refine ⟨by simpa using here, by simpa using numbered, (), parents, (), cascades, ?_⟩
    rcases h with ⟨member, rfl, removed⟩ | ⟨missing, rfl, rfl⟩
    · rw [if_pos member, bind_eq_ok_iff]
      exact ⟨after, removed, rfl⟩
    · rw [if_neg missing, pure_eq_ok_iff]

end Store

end CrashTriage
