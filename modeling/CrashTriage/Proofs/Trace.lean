import CrashTriage.Proofs.Soundness
import Mathlib.Data.List.Induction

/-!
# What happened in a run

The trace of a run lists its commands with their outcomes. From the trace one reads off the
occurrences that a report has to account for: those recorded under its id since a report was last
entered under that id. What holds of a run is proved by adding one event at the end of its trace,
and what the event can do to the problems, reports and buckets is said once for all such proofs.
What depends on the rows of an earlier store is read off the moments of the run, which are its
events with the stores that they started from.
-/

namespace CrashTriage

/-- A command of a run and its outcome. -/
structure Event where
  command : Command
  outcome : Except Failure Reply

/-- An event and the store that it started from. -/
structure Moment extends Event where
  before : Store

/-- Occurrences that were recorded together. -/
structure Occurrence where
  report : Int
  release : Int
  date : Date
  count : Int
deriving DecidableEq

namespace Event

/-- The occurrences that an event recorded: those of a successful record of a positive count. -/
def occurrence? (event : Event) : Option Occurrence :=
  match event.command, event.outcome with
  | .record report release date count, .ok _ =>
    if 0 < count then some ⟨report, release, date, count⟩ else none
  | _, _ => none

/-- Whether an event entered a report under an id. -/
def enters (event : Event) (report : Int) : Bool :=
  match event.command, event.outcome with
  | .insertReport _ _ _, .ok (.entered id) => id = report
  | _, _ => false

/-- An event that neither recorded occurrences nor entered a report. -/
def IsQuiet (event : Event) : Prop :=
  event.occurrence? = none ∧ ∀ report, event.enters report = false

/-- Recorded occurrences have a positive count. -/
lemma count_pos_of_occurrence? {event : Event} {occurrence : Occurrence}
    (h : event.occurrence? = some occurrence) : 0 < occurrence.count := by
  unfold occurrence? at h
  split at h
  · split at h
    · rename_i positive
      cases h
      exact positive
    · cases h
  · cases h

/-- An event that enters a report records no occurrences. -/
lemma occurrence?_of_enters {event : Event} {report : Int} (h : event.enters report = true) :
    event.occurrence? = none := by
  unfold enters at h
  split at h
  · rename_i entered _
    unfold occurrence?
    rw [entered]
  · cases h

/-- A command that fails makes a quiet event. -/
lemma isQuiet_error (command : Command) (failure : Failure) :
    IsQuiet ⟨command, .error failure⟩ := by
  constructor
  · cases command <;> rfl
  · intro report
    cases command <;> rfl

end Event

/-! ### The occurrences that a trace leaves standing -/

/-- The events since a report was last entered under an id, all of them if none was. -/
def sinceEntered (events : List Event) (report : Int) : List Event :=
  (events.reverse.takeWhile fun event => !event.enters report).reverse

/-- The occurrences recorded under the id of a report since it was last entered. -/
def occurrencesOf (events : List Event) (report : Int) : List Occurrence :=
  ((sinceEntered events report).filterMap Event.occurrence?).filter (·.report = report)

/-- The occurrences of a report are those of the records of a positive count that have succeeded
since it was entered. -/
lemma mem_occurrencesOf_iff {events : List Event} {report : Int} {occurrence : Occurrence} :
    occurrence ∈ occurrencesOf events report ↔
      occurrence.report = report ∧ 0 < occurrence.count ∧
        ∃ reply, ⟨.record report occurrence.release occurrence.date occurrence.count, .ok reply⟩
          ∈ sinceEntered events report := by
  unfold occurrencesOf
  rw [List.mem_filter, List.mem_filterMap, decide_eq_true_iff]
  constructor
  · rintro ⟨⟨event, member, recorded⟩, rfl⟩
    refine ⟨rfl, Event.count_pos_of_occurrence? recorded, ?_⟩
    obtain ⟨command, outcome⟩ := event
    unfold Event.occurrence? at recorded
    split at recorded
    · rename_i reply shape succeeded
      split at recorded
      · cases recorded
        cases shape
        cases succeeded
        exact ⟨reply, member⟩
      · cases recorded
    · cases recorded
  · rintro ⟨rfl, positive, reply, member⟩
    exact ⟨⟨_, member, by simp [Event.occurrence?, positive]⟩, rfl⟩

/-- The standing occurrences after one more event: to enter a report discards what was recorded
under its id before. -/
def Event.extend (log : List Occurrence) (event : Event) : List Occurrence :=
  log.filter (fun occurrence => !event.enters occurrence.report) ++ event.occurrence?.toList

/-- The occurrences of all reports that a trace leaves standing. -/
def standing (events : List Event) : List Occurrence :=
  events.foldl Event.extend []

lemma standing_snoc (events : List Event) (event : Event) :
    standing (events ++ [event]) = event.extend (standing events) := by
  simp [standing]

/-- A quiet event leaves the standing occurrences alone. -/
lemma standing_snoc_of_isQuiet (events : List Event) {event : Event} (quiet : event.IsQuiet) :
    standing (events ++ [event]) = standing events := by
  simp [standing_snoc, Event.extend, quiet.1, quiet.2]

/-- What has been recorded since a report was entered grows by what an event records, and starts
anew when the event enters the report. -/
lemma occurrencesOf_snoc (events : List Event) (event : Event) (report : Int) :
    occurrencesOf (events ++ [event]) report =
      if event.enters report = true then []
      else occurrencesOf events report
        ++ event.occurrence?.toList.filter (·.report = report) := by
  unfold occurrencesOf sinceEntered
  rw [List.reverse_append, List.reverse_singleton, List.singleton_append, List.takeWhile_cons]
  cases event.enters report with
  | true => simp
  | false =>
    cases recorded : event.occurrence? with
    | none => simp [recorded]
    | some occurrence => simp [recorded]

/-- The occurrences of a report are those that the trace leaves standing under its id. -/
lemma occurrencesOf_eq_filter_standing (events : List Event) (report : Int) :
    occurrencesOf events report = (standing events).filter (·.report = report) := by
  induction events using List.reverseRecOn with
  | nil => rfl
  | append_singleton events event ih =>
    rw [occurrencesOf_snoc, standing_snoc, Event.extend, List.filter_append, List.filter_filter, ih]
    split
    · rename_i entered
      rw [Event.occurrence?_of_enters entered, Option.toList_none, List.filter_nil,
        List.append_nil, eq_comm, List.filter_eq_nil_iff]
      intro occurrence _ both
      simp only [Bool.and_eq_true, decide_eq_true_eq] at both
      rw [both.1, entered] at both
      exact Bool.noConfusion both.2
    · rename_i other
      congr 1
      refine List.filter_congr fun occurrence _ => ?_
      by_cases same : occurrence.report = report
      · simp [same, other]
      · simp [same]

/-- Standing occurrences have a positive count. -/
lemma count_pos_of_mem_standing {events : List Event} {occurrence : Occurrence}
    (member : occurrence ∈ standing events) : 0 < occurrence.count := by
  induction events using List.reverseRecOn with
  | nil => cases member
  | append_singleton events event ih =>
    rw [standing_snoc, Event.extend, List.mem_append, List.mem_filter] at member
    rcases member with old | new
    · exact ih old.1
    · exact Event.count_pos_of_occurrence? (Option.mem_toList.1 new)

/-! ### Traces of runs -/

/-- A command that leaves the tables themselves alone changes no row when it fails. -/
lemma Command.atomic_perform {command : Command} (keeps : command.keepsTables = true) :
    command.perform.Atomic := by
  cases command with
  | record report release date count =>
    exact StoreM.Atomic.map (Store.atomic_record report release date count) _
  | drop table => cases keeps
  | migrate => cases keeps
  | _ => exact StoreM.Atomic.map (StoreM.atomic_statement _) _

namespace Store

/-- The commands of a run with their outcomes, in order. -/
def trace (store : Store) : List Command → List Event
  | [] => []
  | command :: rest => ⟨command, (store.step command).1⟩ :: (store.step command).2.trace rest

/-- The events of a run together with the stores that they started from, in order. -/
def moments (store : Store) : List Command → List Moment
  | [] => []
  | command :: rest =>
    ⟨⟨command, (store.step command).1⟩, store⟩ :: (store.step command).2.moments rest

/-- The moments of a run without the stores are its trace. -/
lemma map_toEvent_moments (store : Store) (commands : List Command) :
    (store.moments commands).map Moment.toEvent = store.trace commands := by
  induction commands generalizing store with
  | nil => rfl
  | cons command rest ih => rw [moments, List.map_cons, ih, trace]

/-- What holds of the migrated store and no moments, and is preserved when a command adds a moment
to those that have led to a sound store, holds after every run. -/
theorem moment_induction {P : List Moment → Store → Prop} (start : P [] migrated)
    (step : ∀ moments store command, store.Sound → command.keepsTables = true → P moments store →
      P (moments ++ [⟨⟨command, (store.step command).1⟩, store⟩]) (store.step command).2)
    (commands : List Command) (keeps : ∀ command ∈ commands, command.keepsTables = true) :
    P (migrated.moments commands) (migrated.run commands) := by
  -- the run starts anywhere in the induction, after the moments of an earlier part
  have general (before : List Moment) (store : Store) (sound : store.Sound)
      (holds : P before store) : P (before ++ store.moments commands) (store.run commands) := by
    induction commands generalizing before store with
    | nil => simpa [moments] using holds
    | cons command rest ih =>
      have first := keeps command List.mem_cons_self
      have others (c : Command) (member : c ∈ rest) := keeps c (List.mem_cons_of_mem command member)
      rw [run_cons, moments, List.append_cons]
      exact ih others _ _ (sound.step first) (step before store command sound first holds)
  exact general [] migrated sound_migrated start

/-- What holds of the migrated store and an empty trace, and is preserved when a command adds an
event to the trace of a sound store, holds after every run. -/
theorem trace_induction {P : List Event → Store → Prop} (start : P [] migrated)
    (step : ∀ events store command, store.Sound → command.keepsTables = true → P events store →
      P (events ++ [⟨command, (store.step command).1⟩]) (store.step command).2)
    (commands : List Command) (keeps : ∀ command ∈ commands, command.keepsTables = true) :
    P (migrated.trace commands) (migrated.run commands) := by
  rw [← map_toEvent_moments]
  refine moment_induction (P := fun moments store => P (moments.map Moment.toEvent) store) start
    ?_ commands keeps
  intro moments store command sound first holds
  rw [List.map_append]
  exact step (moments.map Moment.toEvent) store command sound first holds

/-! ### What an event does to problems, reports and buckets -/

open StoreM

/-- How an event changes the problems, reports and buckets of a store. Most events leave them alone:
those that fail, those about other rows, and records of no occurrences. -/
inductive Effect (store : Store) : Event → Store → Prop
  | unchanged {event : Event} {after : Store} (quiet : event.IsQuiet)
      (problems : after.problems = store.problems) (reports : after.reports = store.reports)
      (history : after.history = store.history) : Effect store event after
  | insertProblem {first last : Date} {id : Int} {after : Store}
      (yields : (insertProblem first last).Yields store id after) :
      Effect store ⟨.insertProblem first last, .ok (.entered id)⟩ after
  | insertReport {problem : Option Int} {component : Int} {first : Date} {id : Int} {after : Store}
      (yields : (insertReport problem component first).Yields store id after) :
      Effect store ⟨.insertReport problem component first, .ok (.entered id)⟩ after
  | record {report release count : Int} {date : Date} {after : Store} (positive : 0 < count)
      (yields : (record report release date count).Yields store () after) :
      Effect store ⟨.record report release date count, .ok .done⟩ after
  | delete {table : TableName} {id : Int} {n : Nat} {after : Store}
      (removed : store.removeRows table (· = id) = .ok after) :
      Effect store ⟨.delete table id, .ok (.removed n)⟩ after

/-- Every step of a command that leaves the tables themselves alone has such an effect. -/
theorem effect_step (store : Store) {command : Command} (keeps : command.keepsTables = true) :
    Effect store ⟨command, (store.step command).1⟩ (store.step command).2 := by
  cases outcome : (store.step command).1 with
  | error failure =>
    have kept : (store.step command).2 =
        { store with prepared := (store.step command).2.prepared } :=
      Command.atomic_perform keeps store failure outcome
    rw [kept]
    exact .unchanged (Event.isQuiet_error command failure) rfl rfl rfl
  | ok reply =>
    have yields : command.perform.Yields store reply (store.step command).2 := ⟨outcome, rfl⟩
    generalize (store.step command).2 = after at yields
    cases command with
    | insertOpSys name =>
      obtain ⟨id, entered, rfl⟩ := map_yields_iff.1 yields
      obtain ⟨table, -, -, -, rfl⟩ := insertOpSys_yields_iff.1 entered
      exact .unchanged ⟨rfl, fun _ => rfl⟩ rfl rfl rfl
    | insertRelease opsys version =>
      obtain ⟨id, entered, rfl⟩ := map_yields_iff.1 yields
      obtain ⟨table, -, -, -, -, -, rfl⟩ := insertRelease_yields_iff.1 entered
      exact .unchanged ⟨rfl, fun _ => rfl⟩ rfl rfl rfl
    | insertComponent opsys name =>
      obtain ⟨id, entered, rfl⟩ := map_yields_iff.1 yields
      obtain ⟨table, -, -, -, -, -, rfl⟩ := insertComponent_yields_iff.1 entered
      exact .unchanged ⟨rfl, fun _ => rfl⟩ rfl rfl rfl
    | insertProblem first last =>
      obtain ⟨id, entered, rfl⟩ := map_yields_iff.1 yields
      exact .insertProblem entered
    | insertReport problem component first =>
      obtain ⟨id, entered, rfl⟩ := map_yields_iff.1 yields
      exact .insertReport entered
    | linkComponent problem component order =>
      obtain ⟨_, linked, rfl⟩ := map_yields_iff.1 yields
      obtain ⟨table, -, -, ⟨-, rfl⟩ | ⟨fresh, -, rfl⟩⟩ := linkComponent_yields_iff.1 linked
      · exact .unchanged ⟨rfl, fun _ => rfl⟩ rfl rfl rfl
      · exact .unchanged ⟨rfl, fun _ => rfl⟩ rfl rfl rfl
    | linkRelease problem release fix =>
      obtain ⟨_, linked, rfl⟩ := map_yields_iff.1 yields
      obtain ⟨table, -, -, ⟨-, rfl⟩ | ⟨fresh, -, rfl⟩⟩ := linkRelease_yields_iff.1 linked
      · exact .unchanged ⟨rfl, fun _ => rfl⟩ rfl rfl rfl
      · exact .unchanged ⟨rfl, fun _ => rfl⟩ rfl rfl rfl
    | record report release date count =>
      obtain ⟨_, recorded, rfl⟩ := map_yields_iff.1 yields
      by_cases positive : 0 < count
      · exact .record positive recorded
      · have same : after = store := by
          rw [← recorded.2, record_of_nonpos (Int.not_lt.1 positive)]
        rw [same]
        refine .unchanged ⟨?_, fun _ => rfl⟩ rfl rfl rfl
        simp [Event.occurrence?, positive]
    | delete table id =>
      obtain ⟨n, deleted, rfl⟩ := map_yields_iff.1 yields
      obtain ⟨-, -, -, -, ⟨-, -, removed⟩ | ⟨-, -, rfl⟩⟩ := delete_yields_iff.1 deleted
      · exact .delete removed
      · exact .unchanged ⟨rfl, fun _ => rfl⟩ rfl rfl rfl
    | drop table => cases keeps
    | migrate => cases keeps

end Store

end CrashTriage
