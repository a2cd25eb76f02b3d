import CrashTriage.Proofs.BucketStart
import CrashTriage.Proofs.RecordedDates
import CrashTriage.Proofs.ReportBuckets
import CrashTriage.Proofs.WrittenOrder

/-!
# Ranges of occurrences

The first and the last occurrence of a row bound the dates that the row stands for: those it was
entered with and those recorded on it since. Occurrences are recorded on a report, and through the
report on the problem that it belongs to at that moment. So a problem keeps the dates of reports
that are removed afterwards, and a row that is entered under the id of a removed one starts anew.
Dates are compared as they are written.
-/

namespace CrashTriage

/-! ### First and last of a list of dates -/

/-- A date lies between two others, as written. -/
def Date.IsWithin (date first last : Date) : Prop := first.WrittenLE date ∧ date.WrittenLE last

/-- Two dates are the first and the last of a list, as written. -/
structure IsRange (dates : List Date) (first last : Date) : Prop where
  first_mem : first ∈ dates
  last_mem : last ∈ dates
  within : ∀ date ∈ dates, date.IsWithin first last

namespace IsRange

variable {dates : List Date} {first last : Date}

lemma ordered (range : IsRange dates first last) : first.WrittenLE last :=
  (range.within first range.first_mem).2

lemma singleton (date : Date) : IsRange [date] date date where
  first_mem := List.mem_singleton_self date
  last_mem := List.mem_singleton_self date
  within other member := by
    rw [List.mem_singleton.1 member]
    exact ⟨.refl date, .refl date⟩

lemma pair (ordered : first.WrittenLE last) : IsRange [first, last] first last where
  first_mem := by simp
  last_mem := by simp
  within date member := by
    rcases List.mem_cons.1 member with rfl | member
    · exact ⟨.refl date, ordered⟩
    · rw [List.mem_singleton.1 member]
      exact ⟨ordered, .refl last⟩

/-- One more date moves the ends of a range to itself or leaves them where they are. -/
lemma snoc (range : IsRange dates first last) (date : Date) :
    IsRange (dates ++ [date]) (first.writtenMin date) (last.writtenMax date) := by
  obtain ⟨low, low_first, low_date⟩ := Date.writtenMin_spec first date
  obtain ⟨high, last_high, date_high⟩ := Date.writtenMax_spec last date
  have new : date ∈ dates ++ [date] := List.mem_append_right _ (List.mem_singleton_self date)
  constructor
  · rcases low with old | moved
    · rw [old]
      exact List.mem_append_left _ range.first_mem
    · rw [moved]
      exact new
  · rcases high with old | moved
    · rw [old]
      exact List.mem_append_left _ range.last_mem
    · rw [moved]
      exact new
  · intro other member
    rcases List.mem_append.1 member with old | last
    · have within := range.within other old
      exact ⟨low_first.trans within.1, within.2.trans last_high⟩
    · rw [List.mem_singleton.1 last]
      exact ⟨low_date, date_high⟩

end IsRange

/-! ### The dates that a row stands for -/

/-- The dates with which an event enters a problem under an id, if it enters one. -/
def Event.entersProblem? (event : Event) (problem : Int) : Option (List Date) :=
  match event.command, event.outcome with
  | .insertProblem first last, .ok (.entered id) =>
    if id = problem then some [first, last] else none
  | _, _ => none

/-- The date with which an event enters a report under an id, if it enters one. -/
def Event.entersReport? (event : Event) (report : Int) : Option (List Date) :=
  match event.command, event.outcome with
  | .insertReport _ _ first, .ok (.entered id) => if id = report then some [first] else none
  | _, _ => none

/-- The dates of a row after one more moment. They start anew when the row is entered, and a record
adds its date when its report concerns the row. -/
def Moment.follow (enters? : Event → Option (List Date)) (concerns : Store → Int → Bool)
    (dates : List Date) (moment : Moment) : List Date :=
  match enters? moment.toEvent, moment.occurrence? with
  | some entry, _ => entry
  | none, none => dates
  | none, some occurrence =>
    if concerns moment.before occurrence.report then dates ++ [occurrence.date] else dates

/-- The dates of a report: its date of entry, and the dates recorded on it since. -/
def reportDates (moments : List Moment) (report : Int) : List Date :=
  moments.foldl (Moment.follow (·.entersReport? report) fun _ recorded => recorded = report) []

/-- The dates of a problem: those it was entered with, and the dates recorded since on reports that
belonged to it when they were recorded on. -/
def problemDates (moments : List Moment) (problem : Int) : List Date :=
  moments.foldl (Moment.follow (·.entersProblem? problem) fun store recorded =>
    store.problemOf? recorded = some problem) []

section
variable {enters? : Event → Option (List Date)} {concerns : Store → Int → Bool}
  {dates : List Date} {moment : Moment}

lemma Moment.follow_of_entry {entry : List Date} (entered : enters? moment.toEvent = some entry) :
    moment.follow enters? concerns dates = entry := by
  unfold follow
  rw [entered]

lemma Moment.follow_of_none (old : enters? moment.toEvent = none)
    (none : moment.occurrence? = none) : moment.follow enters? concerns dates = dates := by
  unfold follow
  rw [old, none]

lemma Moment.follow_of_occurrence {occurrence : Occurrence} (old : enters? moment.toEvent = none)
    (recorded : moment.occurrence? = some occurrence) :
    moment.follow enters? concerns dates =
      if concerns moment.before occurrence.report then dates ++ [occurrence.date] else dates := by
  unfold follow
  rw [old, recorded]

/-- The dates of a row that an event does not enter stay. -/
lemma Moment.mem_follow (old : enters? moment.toEvent = none) {date : Date}
    (member : date ∈ dates) : date ∈ moment.follow enters? concerns dates := by
  cases recorded : moment.occurrence? with
  | none =>
    rw [follow_of_none old recorded]
    exact member
  | some occurrence =>
    rw [follow_of_occurrence old recorded]
    split
    · exact List.mem_append_left _ member
    · exact member

lemma reportDates_snoc (moments : List Moment) (report : Int) :
    reportDates (moments ++ [moment]) report =
      moment.follow (·.entersReport? report) (fun _ recorded => recorded = report)
        (reportDates moments report) := by
  simp [reportDates]

lemma problemDates_snoc (moments : List Moment) (problem : Int) :
    problemDates (moments ++ [moment]) problem =
      moment.follow (·.entersProblem? problem)
        (fun store recorded => store.problemOf? recorded = some problem)
        (problemDates moments problem) := by
  simp [problemDates]

end

/-- An event enters a report when it has a date of entry for it. -/
lemma Event.entersReport?_eq_none_iff {event : Event} {report : Int} :
    event.entersReport? report = none ↔ event.enters report = false := by
  obtain ⟨command, outcome⟩ := event
  cases command with
  | insertReport problem component first =>
    rcases outcome with failure | reply
    · simp [entersReport?, enters]
    · cases reply <;> simp [entersReport?, enters]
  | _ => simp [entersReport?, enters]

/-- An event that records occurrences enters no report. -/
lemma Event.entersReport?_of_occurrence {event : Event} {occurrence : Occurrence}
    (recorded : event.occurrence? = some occurrence) (report : Int) :
    event.entersReport? report = none := by
  rw [entersReport?_eq_none_iff, Bool.eq_false_iff]
  intro entered
  rw [occurrence?_of_enters entered] at recorded
  cases recorded

/-- The dates on which occurrences of a report stand are dates of the report. -/
lemma mem_reportDates_of_mem_standing {moments : List Moment} {occurrence : Occurrence}
    (stands : occurrence ∈ standing (moments.map Moment.toEvent)) :
    occurrence.date ∈ reportDates moments occurrence.report := by
  induction moments using List.reverseRecOn with
  | nil => cases stands
  | append_singleton moments moment ih =>
    rw [List.map_append, List.map_singleton, standing_snoc, Event.extend, List.mem_append,
      List.mem_filter, Bool.not_eq_true'] at stands
    rw [reportDates_snoc]
    rcases stands with ⟨before, other⟩ | new
    · exact Moment.mem_follow (Event.entersReport?_eq_none_iff.2 other) (ih before)
    · have recorded := Option.mem_toList.1 new
      rw [Moment.follow_of_occurrence (Event.entersReport?_of_occurrence recorded _) recorded]
      simp

namespace Store

open StoreM

variable {moments : List Moment} {event : Event} {store after : Store}

/-! ### Ranges after a run -/

/-- The ranges of a store are those of the dates that its rows stand for, and a problem stands for
the dates on which occurrences of its reports stand. -/
structure Ranged (moments : List Moment) (store : Store) : Prop where
  report : ∀ row ∈ rowsOf store.reports, IsRange (reportDates moments row.id) row.first row.last
  problem : ∀ row ∈ rowsOf store.problems, IsRange (problemDates moments row.id) row.first row.last
  shared : ∀ row ∈ rowsOf store.reports, ∀ problem, row.problem = some problem →
    ∀ occurrence ∈ standing (moments.map Moment.toEvent), occurrence.report = row.id →
      occurrence.date ∈ problemDates moments problem

lemma ranged_migrated : Ranged [] migrated where
  report _ member := absurd member List.not_mem_nil
  problem _ member := absurd member List.not_mem_nil
  shared _ member := absurd member List.not_mem_nil

/-- An event enters no report and no problem under an id that is taken. -/
structure EntersNew (store : Store) (event : Event) : Prop where
  report : ∀ id, refers store.reports id = true → event.entersReport? id = none
  problem : ∀ id, refers store.problems id = true → event.entersProblem? id = none

/-- A step enters reports and problems under new ids. -/
lemma entersNew_step (store : Store) (command : Command) :
    store.EntersNew ⟨command, (store.step command).1⟩ := by
  constructor
  · intro id taken
    cases command with
    | insertReport problem component first =>
      cases outcome : (store.step (.insertReport problem component first)).1 with
      | error failure => rfl
      | ok reply =>
        obtain ⟨entered, yields, rfl⟩ := map_yields_iff.1 ⟨outcome, rfl⟩
        obtain ⟨table, found, -, -, rfl, -⟩ := insertReport_yields_iff.1 yields
        have other : table.nextId ≠ id := by
          rintro rfl
          rw [nextId_not_referred found] at taken
          cases taken
        simp [Event.entersReport?, other]
    | _ => rfl
  · intro id taken
    cases command with
    | insertProblem first last =>
      cases outcome : (store.step (.insertProblem first last)).1 with
      | error failure => rfl
      | ok reply =>
        obtain ⟨entered, yields, rfl⟩ := map_yields_iff.1 ⟨outcome, rfl⟩
        obtain ⟨table, found, -, rfl, -⟩ := insertProblem_yields_iff.1 yields
        have other : table.nextId ≠ id := by
          rintro rfl
          rw [nextId_not_referred found] at taken
          cases taken
        simp [Event.entersProblem?, other]
    | _ => rfl

/-- A report of a store belongs to the problem that its id leads to. -/
lemma problemOf?_id {row : Report} (member : row ∈ rowsOf store.reports) :
    store.problemOf? row.id = row.problem := by
  unfold problemOf?
  cases found : store.reports with
  | none =>
    rw [found] at member
    cases member
  | some table =>
    rw [found] at member
    have reached : table.find? row.id = some row := Register.find?_id member
    rw [Option.bind_some, reached, Option.bind_some]

/-- The ranges remain right when nothing is recorded: every row has just been entered with its
range, or was there with the same range before. -/
lemma Ranged.unrecorded (ranged : Ranged moments store) (sound : store.Sound)
    (new : store.EntersNew event) (quiet : event.occurrence? = none)
    (reports : ∀ row ∈ rowsOf after.reports,
      (∃ entry, event.entersReport? row.id = some entry ∧ IsRange entry row.first row.last) ∨
        ∃ old ∈ rowsOf store.reports, old.id = row.id ∧ old.first = row.first ∧
          old.last = row.last ∧ (row.problem = none ∨ row.problem = old.problem))
    (problems : ∀ row ∈ rowsOf after.problems,
      (∃ entry, event.entersProblem? row.id = some entry ∧ IsRange entry row.first row.last) ∨
        row ∈ rowsOf store.problems) :
    Ranged (moments ++ [⟨event, store⟩]) after := by
  constructor
  · intro row member
    rw [reportDates_snoc]
    rcases reports row member with ⟨entry, entered, range⟩ | ⟨old, before, id, first, last, -⟩
    · rw [Moment.follow_of_entry entered]
      exact range
    · have unentered := new.report row.id (refers_iff.2 ⟨old, before, id⟩)
      rw [Moment.follow_of_none unentered quiet, ← id, ← first, ← last]
      exact ranged.report old before
  · intro row member
    rw [problemDates_snoc]
    rcases problems row member with ⟨entry, entered, range⟩ | before
    · rw [Moment.follow_of_entry entered]
      exact range
    · have unentered := new.problem row.id (refers_iff.2 ⟨row, before, rfl⟩)
      rw [Moment.follow_of_none unentered quiet]
      exact ranged.problem row before
  · intro row member problem belongs occurrence stands own
    rw [List.map_append, List.map_singleton, standing_snoc, Event.extend, quiet, Option.toList_none,
      List.append_nil, List.mem_filter, Bool.not_eq_true', ← Event.entersReport?_eq_none_iff,
      own] at stands
    rcases reports row member with ⟨entry, entered, -⟩ | ⟨old, before, id, -, -, same⟩
    · rw [entered] at stands
      cases stands.2
    · rw [belongs] at same
      have belonged : old.problem = some problem :=
        (same.resolve_left (Option.some_ne_none problem)).symm
      have present := (sound.report old before).1
      rw [belonged, Option.all_some] at present
      rw [problemDates_snoc]
      exact Moment.mem_follow (new.problem problem present)
        (ranged.shared old before problem belonged occurrence stands.1 (own.trans id.symm))

/-- A record moves the ends of the ranges that its date concerns. -/
lemma Ranged.record (ranged : Ranged moments store) {report release count : Int} {date : Date}
    (positive : 0 < count) {u : Unit} {reply : Reply}
    (yields : (record report release date count).Yields store u after) :
    Ranged (moments ++ [⟨⟨.record report release date count, .ok reply⟩, store⟩]) after := by
  obtain ⟨-, table, found, widened⟩ := record_effect positive yields
  have reports (row : Report) (member : row ∈ rowsOf after.reports) :
      ∃ old ∈ rowsOf store.reports,
        (if old.id = report then old.widen date count else old) = row := by
    rw [widened] at member
    rw [found]
    exact List.mem_map.1 member
  have recorded : Event.occurrence? ⟨.record report release date count, .ok reply⟩
      = some ⟨report, release, date, count⟩ := by simp [Event.occurrence?, positive]
  constructor
  · intro row member
    obtain ⟨old, before, shape⟩ := reports row member
    have range := ranged.report old before
    have id : row.id = old.id := by
      rw [← shape]
      split <;> rfl
    rw [reportDates_snoc, Moment.follow_of_occurrence rfl recorded, id, ← shape]
    by_cases same : report = old.id
    · rw [if_pos same.symm, if_pos (decide_eq_true same)]
      exact range.snoc date
    · rw [if_neg (Ne.symm same), if_neg (by simpa using same)]
      exact range
  · intro row member
    rw [record_problems positive yields] at member
    obtain ⟨old, before, shape⟩ := List.mem_map.1 member
    have range := ranged.problem old before
    have id : row.id = old.id := by
      rw [← shape]
      split <;> rfl
    rw [problemDates_snoc, Moment.follow_of_occurrence rfl recorded, id, ← shape]
    by_cases belongs : store.problemOf? report = some old.id
    · rw [if_pos belongs, if_pos (decide_eq_true belongs)]
      exact range.snoc date
    · rw [if_neg belongs, if_neg (by simpa using belongs)]
      exact range
  · intro row member problem belongs occurrence stands own
    obtain ⟨old, before, shape⟩ := reports row member
    have same : row.id = old.id ∧ row.problem = old.problem := by
      rw [← shape]
      split <;> exact ⟨rfl, rfl⟩
    rw [same.2] at belongs
    rw [same.1] at own
    rw [List.map_append, List.map_singleton, standing_snoc, Event.extend, recorded,
      List.mem_append, List.mem_filter] at stands
    rw [problemDates_snoc]
    rcases stands with ⟨earlier, -⟩ | new
    · exact Moment.mem_follow rfl (ranged.shared old before problem belongs occurrence earlier own)
    · have here : occurrence = ⟨report, release, date, count⟩ := by simpa using new
      have reached : store.problemOf? report = some problem := by
        rw [← belongs, ← problemOf?_id before, ← own, here]
      rw [Moment.follow_of_occurrence rfl recorded, if_pos (decide_eq_true reached), here]
      simp

/-- To remove rows keeps the ranges of the rows that remain, and detaches reports at most. -/
lemma exists_report_before_removeRows {table : TableName} {gone : Int → Bool}
    (removed : store.removeRows table gone = .ok after) {row : Report}
    (member : row ∈ rowsOf after.reports) :
    ∃ old ∈ rowsOf store.reports, old.id = row.id ∧ old.first = row.first ∧ old.last = row.last ∧
      (row.problem = none ∨ row.problem = old.problem) := by
  cases table with
  | opsys | releases | components =>
    simp only [Store.removeRows, refuse_eq_ok_iff] at removed
    obtain ⟨-, rfl⟩ := removed
    exact ⟨row, member, rfl, rfl, rfl, .inr rfl⟩
  | problems =>
    cases removed
    obtain ⟨old, before, rfl⟩ := exists_of_mem_modify member
    refine ⟨old, before, (Report.id_detach gone old).symm, ?_⟩
    unfold Report.detach
    split
    · exact ⟨rfl, rfl, .inl rfl⟩
    · exact ⟨rfl, rfl, .inr rfl⟩
  | reports =>
    cases removed
    exact ⟨row, (mem_of_mem_filter member).1, rfl, rfl, rfl, .inr rfl⟩
  | _ =>
    cases removed
    exact ⟨row, member, rfl, rfl, rfl, .inr rfl⟩

/-- The ranges remain right after every event. -/
lemma Ranged.extend (ranged : Ranged moments store) (sound : store.Sound)
    (new : store.EntersNew event) (effect : Effect store event after) :
    Ranged (moments ++ [⟨event, store⟩]) after := by
  cases effect with
  | unchanged quiet problems reports _ =>
    refine ranged.unrecorded sound new quiet.1 ?_ ?_
    · intro row member
      rw [reports] at member
      exact .inr ⟨row, member, rfl, rfl, rfl, .inr rfl⟩
    · intro row member
      rw [problems] at member
      exact .inr member
  | insertProblem yields =>
    obtain ⟨table, found, ordered, rfl, rfl⟩ := insertProblem_yields_iff.1 yields
    refine ranged.unrecorded sound new rfl ?_ ?_
    · intro row member
      exact .inr ⟨row, member, rfl, rfl, rfl, .inr rfl⟩
    · intro row member
      rcases List.mem_append.1 member with old | entered
      · right
        rw [found]
        exact old
      · left
        rw [List.mem_singleton.1 entered]
        exact ⟨_, if_pos rfl, .pair ordered⟩
  | insertReport yields =>
    obtain ⟨table, found, -, -, rfl, rfl⟩ := insertReport_yields_iff.1 yields
    refine ranged.unrecorded sound new rfl ?_ ?_
    · intro row member
      rcases List.mem_append.1 member with old | entered
      · right
        rw [found]
        exact ⟨row, old, rfl, rfl, rfl, .inr rfl⟩
      · left
        rw [List.mem_singleton.1 entered]
        exact ⟨_, if_pos rfl, .singleton _⟩
    · intro row member
      exact .inr member
  | record positive yields => exact ranged.record positive yields
  | delete removed =>
    refine ranged.unrecorded sound new rfl ?_ ?_
    · intro row member
      exact .inr (exists_report_before_removeRows removed member)
    · intro row member
      exact .inr (mem_problems_of_removeRows removed member)

/-- The ranges are right after every run. -/
theorem ranged_run (commands : List Command)
    (keeps : ∀ command ∈ commands, command.keepsTables = true) :
    Ranged (migrated.moments commands) (migrated.run commands) :=
  moment_induction ranged_migrated
    (fun _ store command sound keeps ranged =>
      ranged.extend sound (entersNew_step store command) (effect_step store keeps))
    commands keeps

/-- A daily bucket holds an occurrence of its report on the day that it starts on. -/
lemma Accounted.exists_mem_standing_daily {events : List Event}
    (accounted : Accounted events store) (sound : store.Sound) {bucket : Bucket}
    (member : bucket ∈ store.buckets .daily) :
    ∃ occurrence ∈ standing events,
      occurrence.report = bucket.report ∧ occurrence.date = bucket.start := by
  obtain ⟨occurrence, stands, falls⟩ := accounted.exists_mem_standing sound member
  simp only [Occurrence.fallsIn, Bucket.key_eq, decide_eq_true_eq,
    Granularity.bucketStart?_daily, Option.some.injEq] at falls
  exact ⟨occurrence, stands, falls.1, falls.2.2⟩

/-- After any run of commands that enter, link, record or remove rows, the first and the last
occurrence of a report are the first and the last, as written, of its date of entry and the dates
recorded on it since; and those of a problem are the first and the last of the two it was entered
with and the dates recorded since on reports that belonged to it at the time. So no range ends
before it begins, and the days on which a report has daily buckets lie in its range and in the range
of the problem that it belongs to. Dates from year 0 to year 9999 are written in the order of the
calendar. -/
theorem ranges_of_recorded_dates (commands : List Command)
    (keeps : ∀ command ∈ commands, command.keepsTables = true) :
    (∀ report ∈ rowsOf (migrated.run commands).reports,
      IsRange (reportDates (migrated.moments commands) report.id) report.first report.last) ∧
    (∀ problem ∈ rowsOf (migrated.run commands).problems,
      IsRange (problemDates (migrated.moments commands) problem.id) problem.first problem.last) ∧
    (∀ report ∈ rowsOf (migrated.run commands).reports, report.first.WrittenLE report.last) ∧
    (∀ problem ∈ rowsOf (migrated.run commands).problems,
      problem.first.WrittenLE problem.last) ∧
    (∀ report ∈ rowsOf (migrated.run commands).reports,
      ∀ bucket ∈ (migrated.run commands).buckets .daily, bucket.report = report.id →
        bucket.start.IsWithin report.first report.last ∧
        ∀ problem ∈ rowsOf (migrated.run commands).problems, report.problem = some problem.id →
          bucket.start.IsWithin problem.first problem.last) ∧
    ∀ a b : Date, a.IsUnsigned → b.IsUnsigned → (a.WrittenLE b ↔ a ≤ b) := by
  have sound : (migrated.run commands).Sound := sound_migrated.run keeps
  have ranged := ranged_run commands keeps
  have accounted := accounted_run commands keeps
  rw [← map_toEvent_moments] at accounted
  refine ⟨ranged.report, ranged.problem, ?_, ?_, ?_, ?_⟩
  · intro report member
    exact (ranged.report report member).ordered
  · intro problem member
    exact (ranged.problem problem member).ordered
  · intro report member bucket inside own
    obtain ⟨occurrence, stands, sameReport, sameDay⟩ :=
      accounted.exists_mem_standing_daily sound inside
    have recorded : occurrence.report = report.id := sameReport.trans own
    rw [← sameDay]
    constructor
    · have dated := mem_reportDates_of_mem_standing stands
      rw [recorded] at dated
      exact (ranged.report report member).within _ dated
    · intro problem there belongs
      exact (ranged.problem problem there).within _
        (ranged.shared report member problem.id belongs occurrence stands recorded)
  · intro a b ha hb
    exact Date.writtenLE_iff_of_isUnsigned ha hb

/-- Commands that record an earlier day on the report of a problem, remove the report and enter
another one under its id that belongs to no problem. -/
def removedReport : List Command :=
  oneReport newYearsDay ++ [.record 1 1 newYearsEve 2, .delete .reports 1,
    .insertReport none 1 newYearsDay, .record 1 1 newYearsDay 3]

/-- The problem keeps the day that was recorded on the removed report, and the new report starts
anew. -/
theorem ranges_of_removedReport :
    problemDates (migrated.moments removedReport) 1 = [newYearsDay, newYearsDay, newYearsEve] ∧
      IsRange [newYearsDay, newYearsDay, newYearsEve] newYearsEve newYearsDay ∧
      reportDates (migrated.moments removedReport) 1 = [newYearsDay, newYearsDay] ∧
      IsRange [newYearsDay, newYearsDay] newYearsDay newYearsDay ∧
      ∃ bucket ∈ (migrated.run removedReport).buckets .daily,
        bucket.start = newYearsDay ∧ bucket.start.IsWithin newYearsDay newYearsDay := by
  have ranges := ranges_of_recorded_dates removedReport (by decide)
  have problem : (⟨1, newYearsEve, newYearsDay⟩ : Problem) ∈
      rowsOf (migrated.run removedReport).problems := List.mem_singleton.2 rfl
  have report : (⟨1, none, 1, "core", newYearsDay, newYearsDay, .exact 3⟩ : Report) ∈
      rowsOf (migrated.run removedReport).reports := List.mem_singleton.2 rfl
  have bucket : (⟨1, 1, newYearsDay, .exact 3⟩ : Bucket) ∈
      (migrated.run removedReport).buckets .daily := List.mem_singleton.2 rfl
  refine ⟨rfl, ranges.2.1 _ problem, rfl, ranges.1 _ report, _, bucket, rfl, ?_⟩
  exact (ranges.2.2.2.2.1 _ report _ bucket rfl).1

end Store

end CrashTriage
