import CrashTriage.Proofs.Sums
import CrashTriage.Proofs.Trace

/-!
# Buckets account for occurrences

After every run, each bucket of a report has been raised by the standing occurrences that fall into
it, one after the other, and the count of a report by all standing occurrences of the report. Each
kind of step preserves this, whether it succeeds or fails.
-/

namespace CrashTriage

/-! ### The occurrences of a bucket -/

/-- Whether occurrences are counted in the bucket with a given key. -/
def Occurrence.fallsIn (granularity : Granularity) (key : Int × Int × Date)
    (occurrence : Occurrence) : Bool :=
  occurrence.report = key.1 ∧ occurrence.release = key.2.1 ∧
    granularity.bucketStart? occurrence.date = some key.2.2

/-- The counts of the occurrences in the bucket with a given key. -/
def countsIn (granularity : Granularity) (key : Int × Int × Date) (log : List Occurrence) :
    List Int :=
  (log.filter (Occurrence.fallsIn granularity key)).map Occurrence.count

/-- The counts of the occurrences of a report. -/
def countsOf (report : Int) (log : List Occurrence) : List Int :=
  (log.filter (·.report = report)).map Occurrence.count

lemma countsIn_append (granularity : Granularity) (key : Int × Int × Date)
    (log rest : List Occurrence) :
    countsIn granularity key (log ++ rest)
      = countsIn granularity key log ++ countsIn granularity key rest := by
  simp [countsIn]

lemma countsOf_append (report : Int) (log rest : List Occurrence) :
    countsOf report (log ++ rest) = countsOf report log ++ countsOf report rest := by
  simp [countsOf]

/-- Occurrences are counted in the bucket that their report, their release and the start of their
bucket make up. -/
lemma Occurrence.fallsIn_iff {granularity : Granularity} {key : Int × Int × Date} {start : Date}
    {occurrence : Occurrence} (inside : granularity.bucketStart? occurrence.date = some start) :
    occurrence.fallsIn granularity key = true ↔
      key = (occurrence.report, occurrence.release, start) := by
  unfold fallsIn
  rw [inside, decide_eq_true_iff, Option.some.injEq, Prod.ext_iff, Prod.ext_iff]
  constructor
  · rintro ⟨report, release, same⟩
    exact ⟨report.symm, release.symm, same.symm⟩
  · rintro ⟨report, release, same⟩
    exact ⟨report.symm, release.symm, same.symm⟩

/-- Occurrences are counted in one bucket only. -/
lemma Occurrence.eq_of_fallsIn {granularity : Granularity} {a b : Int × Int × Date}
    {occurrence : Occurrence} (ha : occurrence.fallsIn granularity a = true)
    (hb : occurrence.fallsIn granularity b = true) : a = b := by
  simp only [fallsIn, decide_eq_true_eq] at ha hb
  have start := Option.some.inj (ha.2.2.symm.trans hb.2.2)
  exact Prod.ext (ha.1.symm.trans hb.1) (Prod.ext (ha.2.1.symm.trans hb.2.1) start)

/-- When the occurrences of a report are discarded, those that a test chooses among the occurrences
of one report are none if it is that report, and the same as before otherwise. -/
lemma filter_discard {chooses : Occurrence → Bool} {owner : Int}
    (own : ∀ occurrence, chooses occurrence = true → occurrence.report = owner) (report : Int)
    (log : List Occurrence) :
    (log.filter fun occurrence => !decide (report = occurrence.report)).filter chooses
      = if owner = report then [] else log.filter chooses := by
  rw [List.filter_filter]
  split
  · rename_i same
    rw [List.filter_eq_nil_iff]
    intro occurrence _ both
    rw [Bool.and_eq_true, Bool.not_eq_true', decide_eq_false_iff_not] at both
    exact both.2 (same.symm.trans (own occurrence both.1).symm)
  · rename_i other
    apply List.filter_congr
    intro occurrence _
    cases here : chooses occurrence with
    | false => rfl
    | true =>
      have differ : report ≠ occurrence.report := by
        rw [own occurrence here]
        exact Ne.symm other
      simp [differ]

/-- When the occurrences of a report are discarded, its buckets count none and the others as
before. -/
lemma countsIn_discard (granularity : Granularity) (key : Int × Int × Date) (report : Int)
    (log : List Occurrence) :
    countsIn granularity key (log.filter fun occurrence => !decide (report = occurrence.report))
      = if key.1 = report then [] else countsIn granularity key log := by
  have own (occurrence : Occurrence) (falls : occurrence.fallsIn granularity key = true) :
      occurrence.report = key.1 := (of_decide_eq_true falls).1
  unfold countsIn
  rw [filter_discard own]
  split <;> rfl

/-- When the occurrences of a report are discarded, it has none and the others have theirs. -/
lemma countsOf_discard (r report : Int) (log : List Occurrence) :
    countsOf r (log.filter fun occurrence => !decide (report = occurrence.report))
      = if r = report then [] else countsOf r log := by
  have own (occurrence : Occurrence) (same : decide (occurrence.report = r) = true) :
      occurrence.report = r := of_decide_eq_true same
  unfold countsOf
  rw [filter_discard own]
  split <;> rfl

namespace Store

open StoreM

/-! ### The invariant of a run -/

/-- The buckets and counts of the reports of a store account for the occurrences that a trace
leaves standing. -/
structure Accounted (events : List Event) (store : Store) : Prop where
  placed : ∀ occurrence ∈ standing events, ∀ granularity : Granularity,
    ∃ start, granularity.bucketStart? occurrence.date = some start
  bucket : ∀ granularity key, refers store.reports key.1 = true →
    store.tally? granularity key =
      Tally.afterAll none (countsIn granularity key (standing events))
  count : ∀ row ∈ rowsOf store.reports, some row.count =
    Tally.afterAll (some (.exact 0)) (countsOf row.id (standing events))

/-- The migrated store accounts for nothing. -/
lemma accounted_migrated : Accounted [] migrated where
  placed _ member := absurd member List.not_mem_nil
  bucket granularity key here := by cases granularity <;> rfl
  count _ member := absurd member List.not_mem_nil

variable {events : List Event} {event : Event} {store after : Store}

/-- A quiet event is accounted for when no report is new and the buckets of those that remain have
not changed. -/
lemma Accounted.quiet (accounted : Accounted events store) (quiet : event.IsQuiet)
    (rows : ∀ row ∈ rowsOf after.reports, ∃ old ∈ rowsOf store.reports,
      old.id = row.id ∧ old.count = row.count)
    (tallies : ∀ granularity key, refers after.reports key.1 = true →
      after.tally? granularity key = store.tally? granularity key) :
    Accounted (events ++ [event]) after := by
  have log := standing_snoc_of_isQuiet events quiet
  constructor
  · rw [log]
    exact accounted.placed
  · intro granularity key here
    obtain ⟨row, member, same⟩ := refers_iff.1 here
    obtain ⟨old, before, id, -⟩ := rows row member
    rw [log, tallies granularity key here]
    exact accounted.bucket granularity key (refers_iff.2 ⟨old, before, id.trans same⟩)
  · intro row member
    obtain ⟨old, before, id, count⟩ := rows row member
    rw [log, ← id, ← count]
    exact accounted.count old before

/-- A quiet event is accounted for when it changes neither reports nor buckets. -/
lemma Accounted.unchanged (accounted : Accounted events store) (quiet : event.IsQuiet)
    (reports : after.reports = store.reports) (history : after.history = store.history) :
    Accounted (events ++ [event]) after := by
  refine accounted.quiet quiet (fun row member => ⟨row, by rwa [← reports], rfl, rfl⟩) ?_
  intro granularity key _
  unfold tally?
  rw [history]

/-- A new report accounts for the occurrences recorded since it was entered, of which there are
none. -/
lemma Accounted.insertReport (accounted : Accounted events store) (sound : store.Sound)
    {problem : Option Int} {component : Int} {first : Date} {id : Int}
    (yields : (insertReport problem component first).Yields store id after) :
    Accounted (events ++ [⟨.insertReport problem component first, .ok (.entered id)⟩]) after := by
  obtain ⟨table, found, -, -, rfl, rfl⟩ := insertReport_yields_iff.1 yields
  have log : standing (events ++ [⟨.insertReport problem component first,
      .ok (.entered table.nextId)⟩])
      = (standing events).filter fun occurrence => !decide (table.nextId = occurrence.report) := by
    rw [standing_snoc]
    exact List.append_nil _
  constructor
  · intro occurrence member
    rw [log] at member
    exact accounted.placed occurrence (List.mem_filter.1 member).1
  · intro granularity key here
    rw [log, countsIn_discard]
    split
    · rename_i same
      -- a bucket of the new report would have referred to a report under the next id
      cases tallied : store.tally? granularity key with
      | none => exact tallied
      | some tally =>
        obtain ⟨row, member, rfl, -⟩ := tally?_eq_some_iff.1 tallied
        have refers := (sound.bucket granularity row member).1
        rw [found, refers_some, show row.report = table.nextId from same,
          Register.contains_nextId] at refers
        cases refers
    · rename_i other
      refine accounted.bucket granularity key ?_
      rw [refers_some, Register.contains_insert, Bool.or_eq_true, decide_eq_true_eq] at here
      rw [found]
      exact here.resolve_right (Ne.symm other)
  · intro row member
    rw [log, countsOf_discard]
    rcases List.mem_append.1 member with old | new
    · have below := Register.lt_nextId old
      rw [if_neg (show row.id ≠ table.nextId from Int.ne_of_lt below)]
      exact accounted.count row (by rw [found]; exact old)
    · rw [List.mem_singleton.1 new, if_pos rfl]
      rfl

/-- Recorded occurrences are accounted for in their report and in one bucket at every
granularity. -/
lemma Accounted.record (accounted : Accounted events store) {report release count : Int}
    {date : Date} (positive : 0 < count) {u : Unit} {reply : Reply}
    (yields : (record report release date count).Yields store u after) :
    Accounted (events ++ [⟨.record report release date count, .ok reply⟩]) after := by
  obtain ⟨raised, table, found, widened⟩ := record_effect positive yields
  have log : standing (events ++ [⟨.record report release date count, .ok reply⟩])
      = standing events ++ [⟨report, release, date, count⟩] := by
    simp [standing_snoc, Event.extend, Event.enters, Event.occurrence?, positive]
  constructor
  · intro occurrence member granularity
    rw [log, List.mem_append, List.mem_singleton] at member
    rcases member with old | rfl
    · exact accounted.placed occurrence old granularity
    · obtain ⟨start, inside, -⟩ := raised granularity
      exact ⟨start, inside⟩
  · intro granularity key here
    obtain ⟨start, inside, tallies⟩ := raised granularity
    have before : refers store.reports key.1 = true := by
      rw [widened, refers_some, Register.contains_update] at here
      rw [found]
      exact here
    have falls : Occurrence.fallsIn granularity key ⟨report, release, date, count⟩ = true ↔
        key = (report, release, start) := Occurrence.fallsIn_iff inside
    rw [log, countsIn_append, tallies key, accounted.bucket granularity key before]
    split
    · rename_i same
      simp only [countsIn, List.filter_cons, List.filter_nil, falls.2 same, if_true,
        List.map_cons, List.map_nil]
      rw [Tally.afterAll_snoc]
    · rename_i other
      have outside := Bool.eq_false_iff.2 (mt falls.1 other)
      simp [countsIn, outside]
  · intro row member
    rw [widened] at member
    obtain ⟨old, before, shape⟩ := List.mem_map.1 member
    have counted := accounted.count old (by rw [found]; exact before)
    rw [log, countsOf_append]
    split at shape
    · rename_i same
      have new : countsOf old.id [⟨report, release, date, count⟩] = [count] := by
        simp [countsOf, show report = old.id from same.symm]
      rw [← shape, show (old.widen date count).id = old.id from rfl, new, Tally.afterAll_snoc,
        ← counted]
      rfl
    · rename_i other
      have none : countsOf old.id [⟨report, release, date, count⟩] = [] := by
        simp [countsOf, show report ≠ old.id from Ne.symm other]
      rw [← shape, none, List.append_nil]
      exact counted

/-- To remove rows keeps what is accounted for: a report keeps its buckets and its count as long as
it stays. -/
lemma Accounted.removeRows (accounted : Accounted events store) (quiet : event.IsQuiet)
    {table : TableName} {gone : Int → Bool} (removed : store.removeRows table gone = .ok after) :
    Accounted (events ++ [event]) after := by
  cases table with
  | opsys =>
    simp only [Store.removeRows, refuse_eq_ok_iff] at removed
    exact removed.2 ▸ accounted.unchanged quiet rfl rfl
  | releases =>
    simp only [Store.removeRows, refuse_eq_ok_iff] at removed
    exact removed.2 ▸ accounted.unchanged quiet rfl rfl
  | components =>
    simp only [Store.removeRows, refuse_eq_ok_iff] at removed
    exact removed.2 ▸ accounted.unchanged quiet rfl rfl
  | problems =>
    cases removed
    refine accounted.quiet quiet (fun row member => ?_) fun _ _ _ => rfl
    obtain ⟨old, before, rfl⟩ := exists_of_mem_modify member
    refine ⟨old, before, (Report.id_detach gone old).symm, ?_⟩
    unfold Report.detach
    split <;> rfl
  | reports =>
    cases removed
    refine accounted.quiet quiet
      (fun row member => ⟨row, (mem_of_mem_filter member).1, rfl, rfl⟩) ?_
    intro granularity key here
    obtain ⟨row, member, same⟩ := refers_iff.1 here
    have stays : (!gone key.1) = true := same ▸ (mem_of_mem_filter member).2
    unfold tally?
    rw [History.get_map]
    cases store.history.get granularity with
    | none => rfl
    | some ledger =>
      change (ledger.filter _).tally? key = ledger.tally? key
      unfold Ledger.tally?
      have keeps (bucket : Bucket) : (!gone bucket.report) = !gone (Keyed.key bucket).1 := rfl
      rw [Ledger.find?_filter (fun k : Int × Int × Date => !gone k.1) keeps, if_pos stays]
  | _ =>
    cases removed
    exact accounted.unchanged quiet rfl rfl

/-- What an event does is accounted for, whatever its effect. -/
lemma Accounted.extend (accounted : Accounted events store) (sound : store.Sound)
    (effect : Effect store event after) : Accounted (events ++ [event]) after := by
  cases effect with
  | unchanged quiet _ reports history => exact accounted.unchanged quiet reports history
  | insertProblem yields =>
    obtain ⟨table, -, -, -, rfl⟩ := insertProblem_yields_iff.1 yields
    exact accounted.unchanged ⟨rfl, fun _ => rfl⟩ rfl rfl
  | insertReport yields => exact accounted.insertReport sound yields
  | record positive yields => exact accounted.record positive yields
  | delete removed => exact accounted.removeRows ⟨rfl, fun _ => rfl⟩ removed

/-- Every run is accounted for. -/
theorem accounted_run (commands : List Command)
    (keeps : ∀ command ∈ commands, command.keepsTables = true) :
    Accounted (migrated.trace commands) (migrated.run commands) :=
  trace_induction accounted_migrated
    (fun _ store _ sound keeps accounted => accounted.extend sound (effect_step store keeps))
    commands keeps

end Store

end CrashTriage
