import CrashTriage.Proofs.Accounting

/-!
# The dates in a store

The store makes up no date. Standing occurrences bear the date of the record that entered them, and
the first and last occurrence of a problem are dates of commands: of the one that entered the
problem or of a record that widened its range. Main statement: what holds of all dates of the
commands holds of the dates of the problems after every run.
-/

namespace CrashTriage

/-- The dates that a command brings along. -/
def Command.dates : Command → List Date
  | .insertProblem first last => [first, last]
  | .insertReport _ _ first => [first]
  | .record _ _ date _ => [date]
  | _ => []

/-! ### Dates of occurrences -/

/-- Recorded occurrences bear a date of the command that recorded them. -/
lemma Event.mem_dates_of_occurrence? {event : Event} {occurrence : Occurrence}
    (h : event.occurrence? = some occurrence) : occurrence.date ∈ event.command.dates := by
  obtain ⟨command, outcome⟩ := event
  unfold occurrence? at h
  split at h
  · rename_i shape _
    split at h
    · cases h
      cases shape
      exact List.mem_singleton_self _
    · cases h
  · cases h

/-- Every standing occurrence has been recorded by an event of the trace. -/
lemma exists_event_of_mem_standing {events : List Event} {occurrence : Occurrence}
    (stands : occurrence ∈ standing events) :
    ∃ event ∈ events, event.occurrence? = some occurrence := by
  induction events using List.reverseRecOn with
  | nil => cases stands
  | append_singleton events event ih =>
    rw [standing_snoc, Event.extend, List.mem_append, List.mem_filter] at stands
    rcases stands with ⟨old, -⟩ | new
    · obtain ⟨before, member, recorded⟩ := ih old
      exact ⟨before, List.mem_append_left _ member, recorded⟩
    · exact ⟨event, List.mem_append_right _ (List.mem_singleton_self event),
        Option.mem_toList.1 new⟩

namespace Store

open StoreM

/-- The events of a trace belong to the commands of the run. -/
lemma command_mem_of_mem_trace {store : Store} {commands : List Command} {event : Event}
    (member : event ∈ store.trace commands) : event.command ∈ commands := by
  induction commands generalizing store with
  | nil => cases member
  | cons command rest ih =>
    rcases List.mem_cons.1 member with rfl | later
    · exact List.mem_cons_self
    · exact List.mem_cons_of_mem command (ih later)

/-- What holds of all dates of the commands holds of the dates on which occurrences stand. -/
lemma date_of_mem_standing {P : Date → Prop} {commands : List Command}
    (dates : ∀ command ∈ commands, ∀ date ∈ command.dates, P date) {occurrence : Occurrence}
    (stands : occurrence ∈ standing (migrated.trace commands)) : P occurrence.date := by
  obtain ⟨event, member, recorded⟩ := exists_event_of_mem_standing stands
  exact dates event.command (command_mem_of_mem_trace member) _
    (Event.mem_dates_of_occurrence? recorded)

/-! ### Dates of problems -/

variable {event : Event} {store after : Store}

/-- A problem after occurrences have been recorded was there before, or its range has been widened
by their date. -/
lemma exists_problem_before_record {report release count : Int} {date : Date} {u : Unit}
    (positive : 0 < count) (yields : (record report release date count).Yields store u after)
    {row : Problem} (member : row ∈ rowsOf after.problems) :
    row ∈ rowsOf store.problems ∨ ∃ old ∈ rowsOf store.problems, row = old.widen date := by
  rw [record_problems positive yields] at member
  obtain ⟨old, before, shape⟩ := List.mem_map.1 member
  split at shape
  · exact .inr ⟨old, before, shape.symm⟩
  · exact .inl (shape ▸ before)

/-- To remove rows adds no problem. -/
lemma mem_problems_of_removeRows {table : TableName} {gone : Int → Bool}
    (removed : store.removeRows table gone = .ok after) {row : Problem}
    (member : row ∈ rowsOf after.problems) : row ∈ rowsOf store.problems := by
  cases table with
  | opsys | releases | components =>
    simp only [Store.removeRows, refuse_eq_ok_iff] at removed
    obtain ⟨-, rfl⟩ := removed
    exact member
  | problems =>
    cases removed
    exact (mem_of_mem_filter member).1
  | _ =>
    cases removed
    exact member

/-- A problem after an event was there before, or the event entered it, or it is a record whose date
has widened the range of the problem. -/
lemma Effect.exists_problem_before (effect : Effect store event after) {row : Problem}
    (member : row ∈ rowsOf after.problems) :
    row ∈ rowsOf store.problems ∨ event.command = .insertProblem row.first row.last ∨
      ∃ report release date count, event.command = .record report release date count ∧
        ∃ old ∈ rowsOf store.problems, row = old.widen date := by
  cases effect with
  | unchanged _ problems _ _ =>
    left
    rw [← problems]
    exact member
  | insertProblem yields =>
    obtain ⟨table, found, -, -, rfl⟩ := insertProblem_yields_iff.1 yields
    rcases List.mem_append.1 member with old | new
    · left
      rw [found]
      exact old
    · right
      left
      rw [List.mem_singleton.1 new]
  | insertReport yields =>
    obtain ⟨table, -, -, -, -, rfl⟩ := insertReport_yields_iff.1 yields
    exact .inl member
  | record positive yields =>
    rcases exists_problem_before_record positive yields member with old | widened
    · exact .inl old
    · exact .inr (.inr ⟨_, _, _, _, rfl, widened⟩)
  | delete removed => exact .inl (mem_problems_of_removeRows removed member)

/-- A range that is widened by a date keeps what holds of its ends and of the date. -/
lemma dates_widen {P : Date → Prop} {problem : Problem} {date : Date}
    (ends : P problem.first ∧ P problem.last) (holds : P date) :
    P (problem.widen date).first ∧ P (problem.widen date).last := by
  constructor
  · change P (problem.first.writtenMin date)
    unfold Date.writtenMin
    split
    · exact holds
    · exact ends.1
  · change P (problem.last.writtenMax date)
    unfold Date.writtenMax
    split
    · exact holds
    · exact ends.2

/-- What holds of the dates of an event and of the ranges of the problems before it holds of the
ranges after it. -/
lemma Effect.dates_of_problem {P : Date → Prop} (effect : Effect store event after)
    (before : ∀ row ∈ rowsOf store.problems, P row.first ∧ P row.last)
    (dates : ∀ date ∈ event.command.dates, P date) {row : Problem}
    (member : row ∈ rowsOf after.problems) : P row.first ∧ P row.last := by
  rcases effect.exists_problem_before member with
    old | entered | ⟨report, release, date, count, recorded, old, there, rfl⟩
  · exact before row old
  · rw [entered] at dates
    exact ⟨dates row.first (by simp [Command.dates]), dates row.last (by simp [Command.dates])⟩
  · rw [recorded] at dates
    exact dates_widen (before old there) (dates date (by simp [Command.dates]))

/-- What holds of all dates of the commands holds of the first and the last occurrence of every
problem after the run. -/
theorem problem_dates_of_run {P : Date → Prop} (commands : List Command)
    (keeps : ∀ command ∈ commands, command.keepsTables = true)
    (dates : ∀ command ∈ commands, ∀ date ∈ command.dates, P date) :
    ∀ row ∈ rowsOf (migrated.run commands).problems, P row.first ∧ P row.last := by
  have traced : (∀ event ∈ migrated.trace commands, ∀ date ∈ event.command.dates, P date) →
      ∀ row ∈ rowsOf (migrated.run commands).problems, P row.first ∧ P row.last := by
    refine trace_induction (P := fun events store =>
      (∀ event ∈ events, ∀ date ∈ event.command.dates, P date) →
        ∀ row ∈ rowsOf store.problems, P row.first ∧ P row.last) ?_ ?_ commands keeps
    · intro _ row member
      cases member
    · intro events store command _ keepsTables ih own row member
      have before := ih fun event earlier => own event (List.mem_append_left _ earlier)
      have new := own _ (List.mem_append_right events (List.mem_singleton_self _))
      exact (effect_step store keepsTables).dates_of_problem before new member
  exact traced fun event member => dates event.command (command_mem_of_mem_trace member)

end Store

end CrashTriage
