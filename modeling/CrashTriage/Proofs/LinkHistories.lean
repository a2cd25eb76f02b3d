import CrashTriage.Proofs.Integrity
import CrashTriage.Proofs.OccurrenceRanges

/-!
# Histories of links

A problem is linked to components and to releases, and the two kinds of link treat a pair that is
linked already in opposite ways: the link to a component keeps the order it was first given, the
link to a release takes the fix it was last given. Links go with their problem, and the id of a
removed problem may be given out again. So what a look-up finds is read off the events since the
problem was last entered, the first of them for a component and the last of them for a release,
as long as the problem is present.
-/

namespace CrashTriage

/-! ### Links in a trace -/

/-- The order with which an event links a component to a problem, if it succeeds in that. -/
def Event.linksComponent? (event : Event) (problem component : Int) : Option Int :=
  match event.command, event.outcome with
  | .linkComponent p c order, .ok _ => if p = problem ∧ c = component then some order else none
  | _, _ => none

/-- The fix with which an event links a release to a problem, if it succeeds in that; the fix
itself may be missing. -/
def Event.linksRelease? (event : Event) (problem release : Int) : Option (Option String) :=
  match event.command, event.outcome with
  | .linkRelease p r fix, .ok _ => if p = problem ∧ r = release then some fix else none
  | _, _ => none

/-- The events since a problem was last entered under an id, all of them if none was. -/
def sinceProblemEntered (events : List Event) (problem : Int) : List Event :=
  (events.reverse.takeWhile fun event => (event.entersProblem? problem).isNone).reverse

/-- The order of the first successful link of a component since the problem was last entered. -/
def firstOrder (events : List Event) (problem component : Int) : Option Int :=
  (sinceProblemEntered events problem).findSome? (·.linksComponent? problem component)

/-- The fix of the last successful link of a release since the problem was last entered. -/
def lastFix (events : List Event) (problem release : Int) : Option (Option String) :=
  (sinceProblemEntered events problem).reverse.findSome? (·.linksRelease? problem release)

section
variable {event : Event} {problem : Int}

lemma sinceProblemEntered_snoc_of_entered (events : List Event)
    (entered : (event.entersProblem? problem).isSome = true) :
    sinceProblemEntered (events ++ [event]) problem = [] := by
  have stops : (event.entersProblem? problem).isNone = false := by simpa using entered
  simp [sinceProblemEntered, stops]

lemma sinceProblemEntered_snoc (events : List Event)
    (unentered : event.entersProblem? problem = none) :
    sinceProblemEntered (events ++ [event]) problem
      = sinceProblemEntered events problem ++ [event] := by
  simp [sinceProblemEntered, unentered]

/-- The first order stays when one more event has another. -/
lemma firstOrder_snoc (events : List Event) (component : Int)
    (unentered : event.entersProblem? problem = none) :
    firstOrder (events ++ [event]) problem component
      = (firstOrder events problem component).or (event.linksComponent? problem component) := by
  unfold firstOrder
  rw [sinceProblemEntered_snoc events unentered, List.findSome?_append]
  congr 1
  simp

/-- The last fix is replaced when one more event has another. -/
lemma lastFix_snoc (events : List Event) (release : Int)
    (unentered : event.entersProblem? problem = none) :
    lastFix (events ++ [event]) problem release
      = (event.linksRelease? problem release).or (lastFix events problem release) := by
  unfold lastFix
  rw [sinceProblemEntered_snoc events unentered, List.reverse_append, List.findSome?_append]
  congr 1
  simp

end

/-- A command that fails links nothing. -/
lemma Event.links?_error (command : Command) (failure : Failure) (problem other : Int) :
    Event.linksComponent? ⟨command, .error failure⟩ problem other = none ∧
      Event.linksRelease? ⟨command, .error failure⟩ problem other = none := by
  cases command <;> exact ⟨rfl, rfl⟩

namespace Store

open StoreM

variable {store after : Store}

/-! ### Look-ups of links -/

/-- The row of a ledger with a given key, none if the ledger is absent. -/
def lookUp {ρ κ : Type} [Keyed ρ κ] [DecidableEq κ] (ledger : Option (Ledger ρ)) (key : κ) :
    Option ρ :=
  ledger.bind (·.find? key)

section
variable {ρ κ : Type} [Keyed ρ κ] [DecidableEq κ] {ledger : Option (Ledger ρ)} {key : κ}

lemma lookUp_eq_some_iff {row : ρ} :
    lookUp ledger key = some row ↔ row ∈ entriesOf ledger ∧ Keyed.key row = key := by
  cases ledger with
  | none => simp [lookUp, entriesOf]
  | some table => exact Ledger.find?_eq_some_iff

/-- A row that is entered is found by its key, unless a row with that key is there already. -/
lemma lookUp_insert {table : Ledger ρ} (found : ledger = some table) {row : ρ}
    {h : table.contains (Keyed.key row) = false} :
    lookUp (some (table.insert row h)) key
      = (lookUp ledger key).or (if Keyed.key row = key then some row else none) := by
  rw [found]
  change (table.insert row h).find? key = (table.find? key).or _
  rw [Ledger.find?_insert]
  by_cases same : Keyed.key row = key
  · rw [if_pos same.symm, if_pos same, ← same, Ledger.find?_eq_none_iff.2 h, Option.none_or]
  · rw [if_neg (Ne.symm same), if_neg same, Option.or_none]

/-- To update the row with a key changes what is found by that key. -/
lemma lookUp_update {table : Ledger ρ} (found : ledger = some table) {k : κ} {change : ρ → ρ}
    {h : ∀ row, (Keyed.key (change row) : κ) = Keyed.key row} :
    lookUp (some (table.update k change h)) key =
      if key = k then (lookUp ledger key).map change else lookUp ledger key := by
  rw [found]
  exact Ledger.find?_update

/-- A key is new when nothing is found by it. -/
lemma lookUp_eq_none_iff {table : Ledger ρ} (found : ledger = some table) :
    lookUp ledger key = none ↔ table.contains key = false := by
  rw [found]
  exact Ledger.find?_eq_none_iff

/-- To remove rows by a test on their keys leaves the rows with other keys alone. -/
lemma lookUp_filter (test : κ → Bool) {keep : ρ → Bool} (h : ∀ row, keep row = test (Keyed.key row))
    (pass : test key = true) : lookUp (ledger.map (·.filter keep)) key = lookUp ledger key := by
  cases ledger with
  | none => rfl
  | some table =>
    change (table.filter keep).find? key = table.find? key
    rw [Ledger.find?_filter test h, if_pos pass]

end

/-- The tables of links are present in a sound store, so their look-ups succeed. -/
lemma Sound.componentLink?_eq (sound : store.Sound) (problem component : Int) :
    store.componentLink? problem component
      = .ok (lookUp store.componentLinks (problem, component)) := by
  obtain ⟨table, found⟩ := Option.isSome_iff_exists.1 (sound.tables .componentLinks)
  rw [componentLink?, found]
  rfl

lemma Sound.releaseLink?_eq (sound : store.Sound) (problem release : Int) :
    store.releaseLink? problem release = .ok (lookUp store.releaseLinks (problem, release)) := by
  obtain ⟨table, found⟩ := Option.isSome_iff_exists.1 (sound.tables .releaseLinks)
  rw [releaseLink?, found]
  rfl

/-- Both ends of a link that is found are present. -/
lemma Sound.ends_of_componentLink (sound : store.Sound) {problem component : Int}
    {link : ComponentLink} (linked : lookUp store.componentLinks (problem, component) = some link) :
    refers store.problems problem = true ∧ refers store.components component = true := by
  obtain ⟨member, key⟩ := lookUp_eq_some_iff.1 linked
  obtain ⟨rfl, rfl⟩ := Prod.mk.inj key
  exact sound.componentLink link member

lemma Sound.ends_of_releaseLink (sound : store.Sound) {problem release : Int}
    {link : ReleaseLink} (linked : lookUp store.releaseLinks (problem, release) = some link) :
    refers store.problems problem = true ∧ refers store.releases release = true := by
  obtain ⟨member, key⟩ := lookUp_eq_some_iff.1 linked
  obtain ⟨rfl, rfl⟩ := Prod.mk.inj key
  exact sound.releaseLink link member

/-- Without one of its ends there is no link. -/
lemma Sound.componentLink_of_missing (sound : store.Sound) {problem component : Int}
    (missing : ¬ (refers store.problems problem = true ∧
      refers store.components component = true)) :
    lookUp store.componentLinks (problem, component) = none :=
  Option.eq_none_iff_forall_ne_some.2 fun _ linked =>
    missing (sound.ends_of_componentLink linked)

lemma Sound.releaseLink_of_missing (sound : store.Sound) {problem release : Int}
    (missing : ¬ (refers store.problems problem = true ∧ refers store.releases release = true)) :
    lookUp store.releaseLinks (problem, release) = none :=
  Option.eq_none_iff_forall_ne_some.2 fun _ linked => missing (sound.ends_of_releaseLink linked)

/-- A problem that is not present has no links. -/
lemma Sound.lookUp_of_absent (sound : store.Sound) {problem : Int}
    (absent : refers store.problems problem = false) (other : Int) :
    lookUp store.componentLinks (problem, other) = none ∧
      lookUp store.releaseLinks (problem, other) = none := by
  have gone : ¬ refers store.problems problem = true := Bool.eq_false_iff.1 absent
  exact ⟨sound.componentLink_of_missing fun ends => gone ends.1,
    sound.releaseLink_of_missing fun ends => gone ends.1⟩

/-! ### Calls that link -/

/-- To link a component leaves the links that are there alone. -/
lemma lookUp_linkComponent {p c order : Int} {u : Unit}
    (yields : (linkComponent p c order).Yields store u after) (problem component : Int) :
    lookUp after.componentLinks (problem, component)
      = (lookUp store.componentLinks (problem, component)).or
          ((if p = problem ∧ c = component then some order else none).map
            (⟨problem, component, ·⟩)) := by
  obtain ⟨table, found, -, ⟨known, rfl⟩ | ⟨fresh, -, rfl⟩⟩ := linkComponent_yields_iff.1 yields
  · by_cases same : p = problem ∧ c = component
    · obtain ⟨rfl, rfl⟩ := same
      have linked : lookUp store.componentLinks (p, c) ≠ none := by
        rw [ne_eq, lookUp_eq_none_iff found, known]
        exact Bool.noConfusion
      obtain ⟨link, here⟩ := Option.ne_none_iff_exists'.1 linked
      rw [here, Option.some_or]
    · rw [if_neg same, Option.map_none, Option.or_none]
  · rw [lookUp_insert found]
    by_cases same : p = problem ∧ c = component
    · obtain ⟨rfl, rfl⟩ := same
      simp
    · simp [same]

/-- To link a release replaces the fix of the link that is there. -/
lemma lookUp_linkRelease {p r : Int} {fix : Option String} {u : Unit}
    (yields : (linkRelease p r fix).Yields store u after) (problem release : Int) :
    lookUp after.releaseLinks (problem, release)
      = ((if p = problem ∧ r = release then some fix else none).map
            (⟨problem, release, ·⟩)).or
          (lookUp store.releaseLinks (problem, release)) := by
  obtain ⟨table, found, -, ⟨known, rfl⟩ | ⟨fresh, -, rfl⟩⟩ := linkRelease_yields_iff.1 yields
  · rw [lookUp_update found]
    by_cases same : p = problem ∧ r = release
    · obtain ⟨rfl, rfl⟩ := same
      have linked : lookUp store.releaseLinks (p, r) ≠ none := by
        rw [ne_eq, lookUp_eq_none_iff found, known]
        exact Bool.noConfusion
      obtain ⟨link, here⟩ := Option.ne_none_iff_exists'.1 linked
      obtain ⟨rfl, rfl⟩ := Prod.mk.inj (lookUp_eq_some_iff.1 here).2
      rw [if_pos rfl, here, if_pos ⟨rfl, rfl⟩]
      rfl
    · have differ : ¬ (problem, release) = (p, r) := by
        rw [Prod.mk.injEq]
        exact fun both => same ⟨both.1.symm, both.2.symm⟩
      rw [if_neg differ, if_neg same, Option.map_none, Option.none_or]
  · rw [lookUp_insert found]
    by_cases same : p = problem ∧ r = release
    · obtain ⟨rfl, rfl⟩ := same
      simp [(lookUp_eq_none_iff found).2 fresh]
    · simp [same]

/-- A component is linked when both ends are present; it may be linked already. -/
lemma Sound.linkComponent_of_ends (sound : store.Sound) {problem component : Int} (order : Int)
    (ends : refers store.problems problem = true ∧ refers store.components component = true) :
    (store.step (.linkComponent problem component order)).1 = .ok .done := by
  obtain ⟨table, found⟩ := Option.isSome_iff_exists.1 (sound.tables .componentLinks)
  have parents := requireParents_eq_ok_iff.1 (sound.requireParents_eq .componentLinks)
  have linked : ∃ after, (linkComponent problem component order).Yields store () after := by
    cases known : table.contains (problem, component) with
    | true => exact ⟨_, linkComponent_yields_iff.2 ⟨table, found, parents, .inl ⟨known, rfl⟩⟩⟩
    | false =>
      exact ⟨_, linkComponent_yields_iff.2 ⟨table, found, parents, .inr ⟨known, ends, rfl⟩⟩⟩
  obtain ⟨after, yields⟩ := linked
  exact (map_yields_iff.2 ⟨(), yields, rfl⟩).1

/-- Without one of its ends a link to a component is refused, and the store is left alone. -/
lemma Sound.linkComponent_of_missing (sound : store.Sound) {problem component : Int} (order : Int)
    (missing : ¬ (refers store.problems problem = true ∧
      refers store.components component = true)) :
    store.step (.linkComponent problem component order) = (.error .foreignKey, store) := by
  obtain ⟨table, found⟩ := Option.isSome_iff_exists.1 (sound.tables .componentLinks)
  have new : table.contains (Keyed.key (⟨problem, component, order⟩ : ComponentLink)) = false :=
    (lookUp_eq_none_iff found).1 (sound.componentLink_of_missing missing)
  have refused : linkComponent problem component order store = (.error .foreignKey, store) := by
    unfold linkComponent statement
    simp only [found, present, bind, Except.bind, sound.requireParents_eq]
    rw [dif_pos new, if_pos (by simpa [imp_iff_not_or] using missing)]
    rfl
  change (_ <$> linkComponent problem component order) store = _
  rw [map_apply, refused]

/-- A release is linked when both ends are present; it may be linked already. -/
lemma Sound.linkRelease_of_ends (sound : store.Sound) {problem release : Int}
    (fix : Option String)
    (ends : refers store.problems problem = true ∧ refers store.releases release = true) :
    (store.step (.linkRelease problem release fix)).1 = .ok .done := by
  obtain ⟨table, found⟩ := Option.isSome_iff_exists.1 (sound.tables .releaseLinks)
  have parents := requireParents_eq_ok_iff.1 (sound.requireParents_eq .releaseLinks)
  have linked : ∃ after, (linkRelease problem release fix).Yields store () after := by
    cases known : table.contains (problem, release) with
    | true => exact ⟨_, linkRelease_yields_iff.2 ⟨table, found, parents, .inl ⟨known, rfl⟩⟩⟩
    | false =>
      exact ⟨_, linkRelease_yields_iff.2 ⟨table, found, parents, .inr ⟨known, ends, rfl⟩⟩⟩
  obtain ⟨after, yields⟩ := linked
  exact (map_yields_iff.2 ⟨(), yields, rfl⟩).1

/-- Without one of its ends a link to a release is refused, and the store is left alone. -/
lemma Sound.linkRelease_of_missing (sound : store.Sound) {problem release : Int}
    (fix : Option String)
    (missing : ¬ (refers store.problems problem = true ∧ refers store.releases release = true)) :
    store.step (.linkRelease problem release fix) = (.error .foreignKey, store) := by
  obtain ⟨table, found⟩ := Option.isSome_iff_exists.1 (sound.tables .releaseLinks)
  have new : table.contains (Keyed.key (⟨problem, release, fix⟩ : ReleaseLink)) = false :=
    (lookUp_eq_none_iff found).1 (sound.releaseLink_of_missing missing)
  have refused : linkRelease problem release fix store = (.error .foreignKey, store) := by
    unfold linkRelease statement
    simp only [found, present, bind, Except.bind, sound.requireParents_eq]
    rw [dif_pos new, if_pos (by simpa [imp_iff_not_or] using missing)]
    rfl
  change (_ <$> linkRelease problem release fix) store = _
  rw [map_apply, refused]

/-- A component that is linked stays linked as it is: another link of it is taken and changes
nothing. -/
lemma Sound.linkComponent_of_linked (sound : store.Sound) {problem component : Int}
    {link : ComponentLink} (linked : lookUp store.componentLinks (problem, component) = some link)
    (order : Int) :
    store.step (.linkComponent problem component order) = (.ok .done, store) := by
  have done := sound.linkComponent_of_ends order (sound.ends_of_componentLink linked)
  obtain ⟨_, yields, -⟩ := map_yields_iff.1 ⟨done, rfl⟩
  obtain ⟨table, found, -, ⟨-, same⟩ | ⟨fresh, -, -⟩⟩ := linkComponent_yields_iff.1 yields
  · exact Prod.ext done same.symm
  · rw [(lookUp_eq_none_iff found).2 fresh] at linked
    cases linked

/-! ### What an event does to links -/

/-- Every command but a removal leaves the links to components alone, unless it links a component,
and the links to releases, unless it links a release. -/
lemma links_kept (store : Store) {command : Command} (keeps : command.keepsTables = true)
    (stays : ∀ table id, command ≠ .delete table id) :
    ((∀ problem component order, command ≠ .linkComponent problem component order) →
      (store.step command).2.componentLinks = store.componentLinks) ∧
    ((∀ problem release fix, command ≠ .linkRelease problem release fix) →
      (store.step command).2.releaseLinks = store.releaseLinks) := by
  cases outcome : (store.step command).1 with
  | error failure =>
    have kept : (store.step command).2 =
        { store with prepared := (store.step command).2.prepared } :=
      Command.atomic_perform keeps store failure outcome
    rw [kept]
    exact ⟨fun _ => rfl, fun _ => rfl⟩
  | ok reply =>
    have yields : command.perform.Yields store reply (store.step command).2 := ⟨outcome, rfl⟩
    generalize (store.step command).2 = after at yields
    cases command with
    | insertOpSys name =>
      obtain ⟨id, entered, -⟩ := map_yields_iff.1 yields
      obtain ⟨table, -, -, -, rfl⟩ := insertOpSys_yields_iff.1 entered
      exact ⟨fun _ => rfl, fun _ => rfl⟩
    | insertRelease opsys version =>
      obtain ⟨id, entered, -⟩ := map_yields_iff.1 yields
      obtain ⟨table, -, -, -, -, -, rfl⟩ := insertRelease_yields_iff.1 entered
      exact ⟨fun _ => rfl, fun _ => rfl⟩
    | insertComponent opsys name =>
      obtain ⟨id, entered, -⟩ := map_yields_iff.1 yields
      obtain ⟨table, -, -, -, -, -, rfl⟩ := insertComponent_yields_iff.1 entered
      exact ⟨fun _ => rfl, fun _ => rfl⟩
    | insertProblem first last =>
      obtain ⟨id, entered, -⟩ := map_yields_iff.1 yields
      obtain ⟨table, -, -, -, rfl⟩ := insertProblem_yields_iff.1 entered
      exact ⟨fun _ => rfl, fun _ => rfl⟩
    | insertReport problem component first =>
      obtain ⟨id, entered, -⟩ := map_yields_iff.1 yields
      obtain ⟨table, -, -, -, -, rfl⟩ := insertReport_yields_iff.1 entered
      exact ⟨fun _ => rfl, fun _ => rfl⟩
    | linkComponent problem component order =>
      obtain ⟨_, linked, -⟩ := map_yields_iff.1 yields
      refine ⟨fun other => absurd rfl (other problem component order), fun _ => ?_⟩
      obtain ⟨table, -, -, ⟨-, rfl⟩ | ⟨fresh, -, rfl⟩⟩ := linkComponent_yields_iff.1 linked
      · rfl
      · rfl
    | linkRelease problem release fix =>
      obtain ⟨_, linked, -⟩ := map_yields_iff.1 yields
      refine ⟨fun _ => ?_, fun other => absurd rfl (other problem release fix)⟩
      obtain ⟨table, -, -, ⟨-, rfl⟩ | ⟨fresh, -, rfl⟩⟩ := linkRelease_yields_iff.1 linked
      · rfl
      · rfl
    | record report release date count =>
      obtain ⟨_, recorded, -⟩ := map_yields_iff.1 yields
      rw [record_frame recorded]
      exact ⟨fun _ => rfl, fun _ => rfl⟩
    | delete table id => exact absurd rfl (stays table id)
    | drop table => cases keeps
    | migrate => cases keeps

/-- To remove rows leaves the links of the problems that remain alone. -/
lemma lookUp_removeRows {table : TableName} {gone : Int → Bool}
    (removed : store.removeRows table gone = .ok after) {problem : Int}
    (present : refers after.problems problem = true) (other : Int) :
    lookUp after.componentLinks (problem, other) = lookUp store.componentLinks (problem, other) ∧
      lookUp after.releaseLinks (problem, other) = lookUp store.releaseLinks (problem, other) := by
  cases table with
  | opsys | releases | components =>
    simp only [Store.removeRows, refuse_eq_ok_iff] at removed
    obtain ⟨-, rfl⟩ := removed
    exact ⟨rfl, rfl⟩
  | problems =>
    cases removed
    obtain ⟨row, member, rfl⟩ := refers_iff.1 present
    -- links are removed by the problem in their key, and this one is not among those removed
    have kept := (mem_of_mem_filter member).2
    exact ⟨lookUp_filter (fun key => !gone key.1) (fun _ => rfl) kept,
      lookUp_filter (fun key => !gone key.1) (fun _ => rfl) kept⟩
  | _ =>
    cases removed
    exact ⟨rfl, rfl⟩

/-- A problem that is present after an event was there before it or has been entered by it. -/
lemma Effect.refers_before {event : Event} (effect : Effect store event after) {problem : Int}
    (present : refers after.problems problem = true) :
    refers store.problems problem = true ∨ (event.entersProblem? problem).isSome = true := by
  obtain ⟨row, member, rfl⟩ := refers_iff.1 present
  cases effect with
  | unchanged _ problems _ _ =>
    rw [problems] at present
    exact .inl present
  | insertProblem yields =>
    obtain ⟨table, found, -, rfl, rfl⟩ := insertProblem_yields_iff.1 yields
    rcases List.mem_append.1 member with old | new
    · rw [found]
      exact .inl (refers_iff.2 ⟨row, old, rfl⟩)
    · rw [List.mem_singleton.1 new]
      right
      simp [Event.entersProblem?, Identified.id]
  | insertReport yields =>
    obtain ⟨table, -, -, -, -, rfl⟩ := insertReport_yields_iff.1 yields
    exact .inl present
  | record positive yields =>
    left
    rcases exists_problem_before_record positive yields member with old | ⟨old, there, rfl⟩
    · exact refers_iff.2 ⟨row, old, rfl⟩
    · exact refers_iff.2 ⟨old, there, rfl⟩
  | delete removed =>
    exact .inl (refers_iff.2 ⟨row, mem_problems_of_removeRows removed member, rfl⟩)

/-- What a step does to the links of a problem that is present after it: an order is kept when there
is one, and a fix is replaced when there is a new one. -/
lemma lookUp_step {command : Command} (keeps : command.keepsTables = true) {problem : Int}
    (present : refers (store.step command).2.problems problem = true) (other : Int) :
    lookUp (store.step command).2.componentLinks (problem, other)
      = (lookUp store.componentLinks (problem, other)).or
          ((Event.linksComponent? ⟨command, (store.step command).1⟩ problem other).map
            (⟨problem, other, ·⟩)) ∧
    lookUp (store.step command).2.releaseLinks (problem, other)
      = ((Event.linksRelease? ⟨command, (store.step command).1⟩ problem other).map
            (⟨problem, other, ·⟩)).or
          (lookUp store.releaseLinks (problem, other)) := by
  cases outcome : (store.step command).1 with
  | error failure =>
    have kept : (store.step command).2 =
        { store with prepared := (store.step command).2.prepared } :=
      Command.atomic_perform keeps store failure outcome
    obtain ⟨component, release⟩ := Event.links?_error command failure problem other
    rw [kept, component, release]
    exact ⟨(Option.or_none ..).symm, (Option.none_or ..).symm⟩
  | ok reply =>
    have yields : command.perform.Yields store reply (store.step command).2 := ⟨outcome, rfl⟩
    cases command with
    | linkComponent p c order =>
      obtain ⟨_, linked, -⟩ := map_yields_iff.1 yields
      obtain ⟨-, releases⟩ := links_kept store keeps nofun
      rw [releases nofun]
      exact ⟨lookUp_linkComponent linked problem other, (Option.none_or ..).symm⟩
    | linkRelease p r fix =>
      obtain ⟨_, linked, -⟩ := map_yields_iff.1 yields
      obtain ⟨components, -⟩ := links_kept store keeps nofun
      rw [components nofun]
      exact ⟨(Option.or_none ..).symm, lookUp_linkRelease linked problem other⟩
    | delete table id =>
      obtain ⟨n, deleted, -⟩ := map_yields_iff.1 yields
      have kept : lookUp (store.step (.delete table id)).2.componentLinks (problem, other)
            = lookUp store.componentLinks (problem, other) ∧
          lookUp (store.step (.delete table id)).2.releaseLinks (problem, other)
            = lookUp store.releaseLinks (problem, other) := by
        obtain ⟨-, -, -, -, ⟨-, -, removed⟩ | ⟨-, -, same⟩⟩ := delete_yields_iff.1 deleted
        · exact lookUp_removeRows removed present other
        · rw [← same]
          exact ⟨rfl, rfl⟩
      rw [kept.1, kept.2]
      exact ⟨(Option.or_none ..).symm, (Option.none_or ..).symm⟩
    | _ =>
      obtain ⟨components, releases⟩ := links_kept store keeps nofun
      rw [components nofun, releases nofun]
      exact ⟨(Option.or_none ..).symm, (Option.none_or ..).symm⟩

/-! ### Links after a run -/

/-- The links of the problems of a store are those that a trace tells of. -/
structure Linked (events : List Event) (store : Store) : Prop where
  component : ∀ problem, refers store.problems problem = true → ∀ component,
    lookUp store.componentLinks (problem, component)
      = (firstOrder events problem component).map (⟨problem, component, ·⟩)
  release : ∀ problem, refers store.problems problem = true → ∀ release,
    lookUp store.releaseLinks (problem, release)
      = (lastFix events problem release).map (⟨problem, release, ·⟩)

lemma linked_migrated : Linked [] migrated where
  component _ present := absurd present Bool.false_ne_true
  release _ present := absurd present Bool.false_ne_true

/-- A problem has no links after the step that enters it. -/
lemma Sound.links_of_entered (sound : store.Sound) {command : Command}
    (keeps : command.keepsTables = true) {problem : Int}
    (entered : (Event.entersProblem? ⟨command, (store.step command).1⟩ problem).isSome = true)
    (other : Int) :
    lookUp (store.step command).2.componentLinks (problem, other) = none ∧
      lookUp (store.step command).2.releaseLinks (problem, other) = none := by
  have absent : refers store.problems problem = false := by
    rw [Bool.eq_false_iff]
    intro taken
    rw [(entersNew_step store command).problem problem taken] at entered
    cases entered
  cases command with
  | insertProblem first last =>
    obtain ⟨components, releases⟩ := links_kept store keeps nofun
    rw [components nofun, releases nofun]
    exact sound.lookUp_of_absent absent other
  | _ => cases entered

/-- Links are those of the trace after one more event. -/
lemma Linked.step {events : List Event} (linked : Linked events store) (sound : store.Sound)
    {command : Command} (keeps : command.keepsTables = true) :
    Linked (events ++ [⟨command, (store.step command).1⟩]) (store.step command).2 := by
  have before {problem : Int} (present : refers (store.step command).2.problems problem = true)
      (unentered : Event.entersProblem? ⟨command, (store.step command).1⟩ problem = none) :
      refers store.problems problem = true := by
    rcases (effect_step store keeps).refers_before present with old | entered
    · exact old
    · rw [unentered] at entered
      cases entered
  -- a problem that is entered starts without links, and any other one was there before the event
  constructor
  · intro problem present component
    cases entered : Event.entersProblem? ⟨command, (store.step command).1⟩ problem with
    | some dates =>
      have enters := Option.isSome_of_eq_some entered
      rw [(sound.links_of_entered keeps enters component).1, firstOrder,
        sinceProblemEntered_snoc_of_entered events enters]
      rfl
    | none =>
      rw [(lookUp_step keeps present component).1, firstOrder_snoc events component entered,
        linked.component problem (before present entered) component, Option.map_or]
  · intro problem present release
    cases entered : Event.entersProblem? ⟨command, (store.step command).1⟩ problem with
    | some dates =>
      have enters := Option.isSome_of_eq_some entered
      rw [(sound.links_of_entered keeps enters release).2, lastFix,
        sinceProblemEntered_snoc_of_entered events enters]
      rfl
    | none =>
      rw [(lookUp_step keeps present release).2, lastFix_snoc events release entered,
        linked.release problem (before present entered) release, Option.map_or]

/-- The links of a store are those that the trace of its run tells of. -/
lemma linked_run (commands : List Command)
    (keeps : ∀ command ∈ commands, command.keepsTables = true) :
    Linked (migrated.trace commands) (migrated.run commands) :=
  trace_induction (P := Linked) linked_migrated
    (fun _ _ _ sound keepsTables linked => linked.step sound keepsTables) commands keeps

/-- What calls do to the links of a store. -/
structure LinkCalls (store : Store) : Prop where
  /-- A pair that is linked stays linked with the order it has. -/
  again : ∀ problem component, store.componentLink? problem component ≠ .ok none → ∀ order,
    store.step (.linkComponent problem component order) = (.ok .done, store)
  component : ∀ problem component,
    refers store.problems problem = true ∧ refers store.components component = true →
      ∀ order, (store.step (.linkComponent problem component order)).1 = .ok .done
  missingComponent : ∀ problem component,
    ¬ (refers store.problems problem = true ∧ refers store.components component = true) →
      ∀ order, store.step (.linkComponent problem component order) = (.error .foreignKey, store)
  release : ∀ problem release,
    refers store.problems problem = true ∧ refers store.releases release = true →
      ∀ fix, (store.step (.linkRelease problem release fix)).1 = .ok .done
  missingRelease : ∀ problem release,
    ¬ (refers store.problems problem = true ∧ refers store.releases release = true) →
      ∀ fix, store.step (.linkRelease problem release fix) = (.error .foreignKey, store)
  /-- No other call that enters or records changes a link. -/
  others : ∀ command : Command, command.keepsTables = true →
    (∀ table id, command ≠ .delete table id) →
    ((∀ problem component order, command ≠ .linkComponent problem component order) →
      (store.step command).2.componentLinks = store.componentLinks) ∧
    ((∀ problem release fix, command ≠ .linkRelease problem release fix) →
      (store.step command).2.releaseLinks = store.releaseLinks)

/-- Calls do this to every sound store. -/
lemma Sound.linkCalls (sound : store.Sound) : store.LinkCalls where
  again problem component linked order := by
    rw [sound.componentLink?_eq, ne_eq, Except.ok.injEq, ← ne_eq,
      Option.ne_none_iff_exists'] at linked
    obtain ⟨link, here⟩ := linked
    exact sound.linkComponent_of_linked here order
  component _ _ ends order := sound.linkComponent_of_ends order ends
  missingComponent _ _ missing order := sound.linkComponent_of_missing order missing
  release _ _ ends fix := sound.linkRelease_of_ends fix ends
  missingRelease _ _ missing fix := sound.linkRelease_of_missing fix missing
  others _ keeps stays := links_kept store keeps stays

/-- After any run of commands that enter, link, record or remove rows, a component is linked to a
problem that is present by the first successful call since the problem was last entered, with the
order of that call, and a release by the last one, with its fix, also when that fix is missing. A
problem that is not present has no links, whatever was linked to it before. A call that links
fails exactly when one of its ends is missing, and then changes nothing. -/
theorem links_follow_calls (commands : List Command)
    (keeps : ∀ command ∈ commands, command.keepsTables = true) :
    (∀ problem, refers (migrated.run commands).problems problem = true →
      (∀ component, (migrated.run commands).componentLink? problem component =
        .ok ((firstOrder (migrated.trace commands) problem component).map
          (⟨problem, component, ·⟩))) ∧
      ∀ release, (migrated.run commands).releaseLink? problem release =
        .ok ((lastFix (migrated.trace commands) problem release).map (⟨problem, release, ·⟩))) ∧
    (∀ problem, refers (migrated.run commands).problems problem = false → ∀ other,
      (migrated.run commands).componentLink? problem other = .ok none ∧
        (migrated.run commands).releaseLink? problem other = .ok none) ∧
    (migrated.run commands).LinkCalls := by
  have sound : (migrated.run commands).Sound := sound_migrated.run keeps
  have linked := linked_run commands keeps
  refine ⟨?_, ?_, sound.linkCalls⟩
  · intro problem present
    constructor
    · intro component
      rw [sound.componentLink?_eq, linked.component problem present component]
    · intro release
      rw [sound.releaseLink?_eq, linked.release problem present release]
  · intro problem absent other
    obtain ⟨component, release⟩ := sound.lookUp_of_absent absent other
    rw [sound.componentLink?_eq, sound.releaseLink?_eq, component, release]
    exact ⟨rfl, rfl⟩

/-- Commands that link a problem, remove it, enter another one under its id, and link that one twice
to the component and twice to a release. -/
def linkedAnew : List Command :=
  oneReport newYearsEve ++ [.linkComponent 1 1 9, .delete .problems 1,
    .insertProblem newYearsEve newYearsEve, .linkComponent 1 1 7, .linkComponent 1 1 3,
    .linkRelease 1 1 (some "9.1"), .linkRelease 1 1 none]

/-- The first order and the last fix of the new problem count, another order is taken without
effect, and a link to a component that is not there is refused. -/
theorem links_of_linkedAnew :
    (migrated.run linkedAnew).componentLink? 1 1 = .ok (some ⟨1, 1, 7⟩) ∧
      (migrated.run linkedAnew).releaseLink? 1 1 = .ok (some ⟨1, 1, none⟩) ∧
      (migrated.run linkedAnew).componentLink? 2 1 = .ok none ∧
      (migrated.run linkedAnew).step (.linkComponent 1 1 5)
        = (.ok .done, migrated.run linkedAnew) ∧
      (migrated.run linkedAnew).step (.linkComponent 1 2 0)
        = (.error .foreignKey, migrated.run linkedAnew) ∧
      ((migrated.run linkedAnew).step (.linkRelease 1 1 none)).1 = .ok .done ∧
      ((migrated.run linkedAnew).step (.insertOpSys "bsd")).2.componentLinks
        = (migrated.run linkedAnew).componentLinks := by
  have follow := links_follow_calls linkedAnew (by decide)
  have present : refers (migrated.run linkedAnew).problems 1 = true := rfl
  have component := (follow.1 1 present).1 1
  refine ⟨component, (follow.1 1 present).2 1, (follow.2.1 2 rfl 1).1, ?_, ?_, ?_, ?_⟩
  · refine follow.2.2.again 1 1 ?_ 5
    rw [component]
    nofun
  · exact follow.2.2.missingComponent 1 2 (by decide) 0
  · exact follow.2.2.release 1 1 ⟨rfl, rfl⟩ none
  · exact (follow.2.2.others (.insertOpSys "bsd") rfl nofun).1 nofun

/-- A problem that has been linked to a component and removed has a call that links it since it was
last entered, and no link. -/
theorem no_link_of_removed_problem :
    ¬ ∀ commands : List Command, (∀ command ∈ commands, command.keepsTables = true) →
      ∀ problem component, (migrated.run commands).componentLink? problem component =
        .ok ((firstOrder (migrated.trace commands) problem component).map
          (⟨problem, component, ·⟩)) := by
  intro always
  have linked := always [.insertOpSys "linux", .insertComponent 1 "kernel",
    .insertProblem newYearsEve newYearsEve, .linkComponent 1 1 7, .delete .problems 1]
    (by decide) 1 1
  have gone : (Except.ok none : Except Failure (Option ComponentLink)) = .ok (some ⟨1, 1, 7⟩) :=
    linked
  cases gone

end Store

end CrashTriage
