import CrashTriage.Proofs.Accounting
import CrashTriage.Proofs.Totals
import Mathlib.Tactic.Tauto

/-!
# The buckets of reports

What it means for a store to account for the occurrences that a trace leaves standing. A report has
a bucket exactly where some of its occurrences fall. Bucket counts that are exact are the sums of
what falls into the buckets, so the buckets of every granularity regroup the same occurrences.
-/

namespace CrashTriage.Store

variable {events : List Event} {store : Store}

/-! ### What accounted stores say about reports -/

/-- A bucket of a present report is there exactly when an occurrence that stands falls into it. -/
lemma Accounted.exists_bucket_iff (accounted : Accounted events store) {granularity : Granularity}
    {key : Int × Int × Date} (here : refers store.reports key.1 = true) :
    (∃ bucket ∈ store.buckets granularity, Keyed.key bucket = key) ↔
      ∃ occurrence ∈ standing events, occurrence.fallsIn granularity key = true := by
  have counted := accounted.bucket granularity key here
  constructor
  · rintro ⟨bucket, member, rfl⟩
    rw [tally?_eq_some_iff.2 ⟨bucket, member, rfl, rfl⟩] at counted
    have nonempty : countsIn granularity (Keyed.key bucket) (standing events) ≠ [] := by
      intro none
      rw [none] at counted
      cases counted
    obtain ⟨count, inside⟩ := List.exists_mem_of_ne_nil _ nonempty
    obtain ⟨occurrence, found, -⟩ := List.mem_map.1 inside
    exact ⟨occurrence, List.mem_filter.1 found⟩
  · rintro ⟨occurrence, member, falls⟩
    cases tallied : store.tally? granularity key with
    | none =>
      rw [tallied] at counted
      obtain ⟨-, none⟩ := Tally.afterAll_eq_none_iff.1 counted.symm
      have inside : occurrence.count ∈ countsIn granularity key (standing events) :=
        List.mem_map_of_mem (List.mem_filter.2 ⟨member, falls⟩)
      rw [none] at inside
      cases inside
    | some tally =>
      obtain ⟨bucket, found, same, -⟩ := tally?_eq_some_iff.1 tallied
      exact ⟨bucket, found, same⟩

/-- The exact count of a bucket of a present report is the sum of what falls into it. -/
lemma Accounted.eq_sum_of_exact (accounted : Accounted events store) {granularity : Granularity}
    {bucket : Bucket} (member : bucket ∈ store.buckets granularity)
    (here : refers store.reports bucket.report = true) {n : Int} (exact : bucket.count = .exact n) :
    n = (countsIn granularity (Keyed.key bucket) (standing events)).sum := by
  have counted := accounted.bucket granularity (Keyed.key bucket) here
  rw [tally?_eq_some_iff.2 ⟨bucket, member, rfl, exact⟩] at counted
  exact Tally.eq_sum_of_afterAll_eq_exact (.inl rfl) counted.symm

/-- A bucket holds an occurrence that stands. -/
lemma Accounted.exists_mem_standing (accounted : Accounted events store) (sound : store.Sound)
    {granularity : Granularity} {bucket : Bucket} (member : bucket ∈ store.buckets granularity) :
    ∃ occurrence ∈ standing events, occurrence.fallsIn granularity (Keyed.key bucket) = true :=
  (accounted.exists_bucket_iff (sound.bucket granularity bucket member).1).1 ⟨bucket, member, rfl⟩

/-! ### Buckets that follow a choice among occurrences -/

/-- What a test chooses of the standing occurrences whose report is present. -/
def chosen (events : List Event) (store : Store) (choose : Occurrence → Bool) :
    List Occurrence :=
  (standing events).filter fun occurrence =>
    refers store.reports occurrence.report && choose occurrence

/-- Whether a test of buckets follows a test of occurrences: it keeps a bucket exactly when the
other one chooses the standing occurrences that fall into the bucket. -/
def Follows (events : List Event) (granularity : Granularity) (keep : Bucket → Bool)
    (choose : Occurrence → Bool) : Prop :=
  ∀ occurrence ∈ standing events, ∀ bucket : Bucket,
    occurrence.fallsIn granularity (Keyed.key bucket) = true → keep bucket = choose occurrence

section
variable {granularity : Granularity} {keep : Bucket → Bool} {choose : Occurrence → Bool}

/-- Occurrences that fall into a kept bucket are chosen with it. -/
lemma Follows.countsIn_eq (follows : Follows events granularity keep choose) {bucket : Bucket}
    (here : refers store.reports bucket.report = true) (kept : keep bucket = true) :
    countsIn granularity (Keyed.key bucket) (standing events) =
      ((chosen events store choose).filter
        (Occurrence.fallsIn granularity (Keyed.key bucket))).map Occurrence.count := by
  unfold countsIn chosen
  rw [List.filter_filter]
  congr 1
  refine List.filter_congr fun occurrence stands => ?_
  cases falls : occurrence.fallsIn granularity (Keyed.key bucket) with
  | false => rfl
  | true =>
    have chooses := follows occurrence stands bucket falls
    simp only [Occurrence.fallsIn, Bucket.key_eq, decide_eq_true_eq] at falls
    rw [falls.1, here, ← chooses, kept]
    rfl

/-- A chosen occurrence falls into a kept bucket. -/
lemma Accounted.exists_bucket_of_mem_chosen (accounted : Accounted events store)
    (follows : Follows events granularity keep choose) {occurrence : Occurrence}
    (member : occurrence ∈ chosen events store choose) :
    ∃ bucket ∈ store.buckets granularity, keep bucket = true ∧
      occurrence.fallsIn granularity (Keyed.key bucket) = true := by
  obtain ⟨stands, here⟩ := List.mem_filter.1 member
  rw [Bool.and_eq_true] at here
  obtain ⟨start, placed⟩ := accounted.placed occurrence stands granularity
  have falls : occurrence.fallsIn granularity (occurrence.report, occurrence.release, start)
      = true := (Occurrence.fallsIn_iff placed).2 rfl
  obtain ⟨bucket, inside, same⟩ := (accounted.exists_bucket_iff here.1).2
    ⟨occurrence, stands, falls⟩
  have falls' : occurrence.fallsIn granularity (Keyed.key bucket) = true := same ▸ falls
  exact ⟨bucket, inside, (follows occurrence stands bucket falls').trans here.2, falls'⟩

/-- Some bucket is kept exactly when some standing occurrence is chosen. -/
lemma Accounted.exists_kept_bucket_iff (accounted : Accounted events store) (sound : store.Sound)
    (follows : Follows events granularity keep choose) :
    (∃ bucket ∈ store.buckets granularity, keep bucket = true) ↔
      chosen events store choose ≠ [] := by
  constructor
  · rintro ⟨bucket, member, kept⟩
    have here := (sound.bucket granularity bucket member).1
    obtain ⟨occurrence, stands, falls⟩ := accounted.exists_mem_standing sound member
    have chooses := follows occurrence stands bucket falls
    simp only [Occurrence.fallsIn, Bucket.key_eq, decide_eq_true_eq] at falls
    refine List.ne_nil_of_mem (List.mem_filter.2 ⟨stands, ?_⟩)
    rw [falls.1, here, ← chooses, kept]
    rfl
  · intro nonempty
    obtain ⟨occurrence, inside⟩ := List.exists_mem_of_ne_nil _ nonempty
    obtain ⟨bucket, member, kept, -⟩ := accounted.exists_bucket_of_mem_chosen follows inside
    exact ⟨bucket, member, kept⟩

/-- Buckets are kept or not as occurrences are chosen or not. -/
lemma Accounted.isEmpty_kept (accounted : Accounted events store) (sound : store.Sound)
    (follows : Follows events granularity keep choose) :
    ((store.buckets granularity).filter keep).isEmpty
      = (chosen events store choose).isEmpty := by
  have some_iff := accounted.exists_kept_bucket_iff sound follows
  rw [Bool.eq_iff_iff, List.isEmpty_iff, List.isEmpty_iff, List.filter_eq_nil_iff]
  constructor
  · intro none
    by_contra nonempty
    obtain ⟨bucket, member, kept⟩ := some_iff.2 nonempty
    exact none bucket member kept
  · intro none bucket member kept
    exact some_iff.1 ⟨bucket, member, kept⟩ none

/-- Kept buckets whose counts are exact add up to the chosen occurrences. -/
lemma Accounted.exactSum_kept (accounted : Accounted events store) (sound : store.Sound)
    (follows : Follows events granularity keep choose)
    (exact : ∀ bucket ∈ store.buckets granularity,
      keep bucket = true → bucket.count.isApproximate = false) :
    exactSum (((store.buckets granularity).filter keep).map Bucket.count)
      = ((chosen events store choose).map Occurrence.count).sum := by
  have each (bucket : Bucket) (inside : bucket ∈ (store.buckets granularity).filter keep) :
      (Tally.exactPart ∘ Bucket.count) bucket = (((chosen events store choose).filter
        (Occurrence.fallsIn granularity (Keyed.key bucket))).map Occurrence.count).sum := by
    obtain ⟨member, kept⟩ := List.mem_filter.1 inside
    have here := (sound.bucket granularity bucket member).1
    rw [← follows.countsIn_eq here kept]
    cases count : bucket.count with
    | exact n =>
      rw [Function.comp_apply, count]
      exact accounted.eq_sum_of_exact member here count
    | approximate x =>
      have := exact bucket member kept
      rw [count] at this
      cases this
  rw [exactSum_eq_sum, List.map_map, List.map_congr_left each]
  refine sum_regroup (fun bucket => Occurrence.fallsIn granularity (Keyed.key bucket)) ?_ ?_
  · refine ((pairwise_buckets store granularity).filter _).imp fun differ occurrence _ first => ?_
    rw [Bool.eq_false_iff]
    exact fun second => differ (Occurrence.eq_of_fallsIn first second)
  · intro occurrence inside
    obtain ⟨bucket, member, kept, falls⟩ := accounted.exists_bucket_of_mem_chosen follows inside
    exact ⟨bucket, List.mem_filter.2 ⟨member, kept⟩, falls⟩

/-- An exact total of kept buckets is the sum of the chosen occurrences. -/
lemma Accounted.eq_sum_of_total (accounted : Accounted events store) (sound : store.Sound)
    (follows : Follows events granularity keep choose) {n : Int}
    (total : Total.ofTallies (((store.buckets granularity).filter keep).map Bucket.count)
      = .exact n) : n = ((chosen events store choose).map Occurrence.count).sum := by
  obtain ⟨exact, sum, -⟩ := Total.ofTallies_eq_exact_iff.1 total
  rw [sum]
  apply accounted.exactSum_kept sound follows
  intro bucket member kept
  exact exact bucket.count (List.mem_map_of_mem (List.mem_filter.2 ⟨member, kept⟩))

end

/-! ### Buckets selected by report and release -/

/-- What is selected of the standing occurrences by their report, which is present, and their
release. -/
def selected (events : List Event) (store : Store) (select : Int → Int → Bool) :
    List Occurrence :=
  (standing events).filter fun occurrence =>
    refers store.reports occurrence.report && select occurrence.report occurrence.release

/-- To select is to choose by report and release. -/
lemma selected_eq_chosen (events : List Event) (store : Store) (select : Int → Int → Bool) :
    selected events store select =
      chosen events store fun occurrence => select occurrence.report occurrence.release := rfl

/-- At every granularity a selection by report and release is the same of buckets as of the
occurrences in them. -/
lemma follows_select (events : List Event) (granularity : Granularity)
    (select : Int → Int → Bool) :
    Follows events granularity (fun bucket => select bucket.report bucket.release)
      fun occurrence => select occurrence.report occurrence.release := by
  intro occurrence _ bucket falls
  simp only [Occurrence.fallsIn, Bucket.key_eq, decide_eq_true_eq] at falls
  change select bucket.report bucket.release = select occurrence.report occurrence.release
  rw [falls.1, falls.2.1]

/-- The standing occurrences of a present report. -/
lemma selected_report {report : Int} (here : refers store.reports report = true) :
    selected events store (fun r _ => r = report)
      = (standing events).filter (·.report = report) := by
  refine List.filter_congr fun occurrence _ => ?_
  by_cases same : occurrence.report = report
  · simp [same, here]
  · simp [same]

/-- While the count of a report is exact, so are the counts of its buckets. -/
lemma Accounted.exact_of_report_exact (accounted : Accounted events store) {row : Report}
    (member : row ∈ rowsOf store.reports) {n : Int} (exact : row.count = .exact n)
    {granularity : Granularity} {bucket : Bucket} (inside : bucket ∈ store.buckets granularity)
    (own : bucket.report = row.id) : bucket.count.isApproximate = false := by
  have here : refers store.reports row.id = true := refers_iff.2 ⟨row, member, rfl⟩
  have here' : refers store.reports bucket.report = true := own ▸ here
  have total := (accounted.count row member).symm
  rw [exact] at total
  have sum := Tally.eq_sum_of_afterAll_eq_exact (.inr rfl) total
  have fits := (Tally.fits_of_afterAll_eq_exact total).2
  have counts : countsIn granularity (Keyed.key bucket) (standing events) =
      (((standing events).filter (·.report = row.id)).filter
        (Occurrence.fallsIn granularity (Keyed.key bucket))).map Occurrence.count := by
    rw [← selected_report here, selected_eq_chosen]
    exact (follows_select events granularity fun r _ => r = row.id).countsIn_eq here'
      (decide_eq_true own)
  have positive (occurrence : Occurrence)
      (among : occurrence ∈ (standing events).filter (·.report = row.id)) : 0 < occurrence.count :=
    count_pos_of_mem_standing (List.mem_filter.1 among).1
  have below : (countsIn granularity (Keyed.key bucket) (standing events)).sum
      ≤ Numeral.maxInt64 := by
    refine Int.le_trans ?_ fits
    rw [counts, sum]
    exact sum_filter_le _ positive
  have above (count : Int) (counted : count ∈ countsIn granularity (Keyed.key bucket)
      (standing events)) : 0 < count := by
    rw [counts] at counted
    obtain ⟨occurrence, among, rfl⟩ := List.mem_map.1 counted
    exact positive occurrence (List.mem_filter.1 among).1
  have tallied := accounted.bucket granularity (Keyed.key bucket) here'
  rw [tally?_eq_some_iff.2 ⟨bucket, inside, rfl, rfl⟩] at tallied
  have nonempty : countsIn granularity (Keyed.key bucket) (standing events) ≠ [] := by
    intro none
    rw [none] at tallied
    cases tallied
  rw [Tally.afterAll_of_sum_le above below nonempty, Option.some.injEq] at tallied
  rw [tallied]
  rfl

/-- While the count of a report is exact, its buckets add up to it at every granularity. -/
lemma Accounted.total_of_report_exact (accounted : Accounted events store) (sound : store.Sound)
    {row : Report} (member : row ∈ rowsOf store.reports) {n : Int} (exact : row.count = .exact n)
    (granularity : Granularity) :
    Total.ofTallies (((store.buckets granularity).filter (·.report = row.id)).map Bucket.count)
      = .exact n := by
  have here : refers store.reports row.id = true := refers_iff.2 ⟨row, member, rfl⟩
  have total := (accounted.count row member).symm
  rw [exact] at total
  have exacts (bucket : Bucket) (inside : bucket ∈ store.buckets granularity)
      (own : decide (bucket.report = row.id) = true) : bucket.count.isApproximate = false :=
    accounted.exact_of_report_exact member exact inside (of_decide_eq_true own)
  have sum : exactSum (((store.buckets granularity).filter (·.report = row.id)).map Bucket.count)
      = n := by
    have follows := follows_select events granularity fun r _ => r = row.id
    rw [accounted.exactSum_kept sound follows exacts,
      ← selected_eq_chosen events store fun r _ => r = row.id, selected_report here]
    exact (Tally.eq_sum_of_afterAll_eq_exact (.inr rfl) total).symm
  rw [Total.ofTallies_eq_exact_iff, sum]
  refine ⟨fun tally among => ?_, rfl, Tally.fits_of_afterAll_eq_exact total⟩
  obtain ⟨bucket, inside, rfl⟩ := List.mem_map.1 among
  obtain ⟨inside, own⟩ := List.mem_filter.1 inside
  exact exacts bucket inside own

/-! ### Bucket accounting over whole runs -/

/-- Of rows with different keys at most one has a given key. -/
lemma length_filter_key_le_one {rows : List Bucket}
    (distinct : rows.Pairwise fun a b => Keyed.key a ≠ Keyed.key b) {keep : Bucket → Bool}
    (key : Int × Int × Date) (h : ∀ row, keep row = true → Keyed.key row = key) :
    (rows.filter keep).length ≤ 1 := by
  refine length_le_one_of_pairwise (distinct.filter keep) fun a ha b hb differ => differ ?_
  exact (h a (List.mem_filter.1 ha).2).trans (h b (List.mem_filter.1 hb).2).symm

/-- The occurrences of a report that are counted in one bucket. -/
lemma countsIn_standing (events : List Event) (granularity : Granularity) (report release : Int)
    (start : Date) :
    countsIn granularity (report, release, start) (standing events) =
      ((occurrencesOf events report).filter fun occurrence => occurrence.release = release ∧
        granularity.bucketStart? occurrence.date = some start).map Occurrence.count := by
  unfold countsIn
  rw [occurrencesOf_eq_filter_standing, List.filter_filter]
  congr 1
  refine List.filter_congr fun occurrence _ => ?_
  simp only [Occurrence.fallsIn]
  rw [Bool.eq_iff_iff, Bool.and_eq_true]
  simp only [decide_eq_true_eq]
  tauto

/-- After any run of commands that enter, link, record or remove rows, a report that is present has
a bucket exactly for the records of a positive count that have succeeded since it was entered, at
most one for each release and start; an exact count is positive and the sum of what was recorded;
and as long as the report's own count is exact, its buckets add up to it at every granularity. -/
theorem buckets_account_for_records (commands : List Command)
    (keeps : ∀ command ∈ commands, command.keepsTables = true) (report : Report)
    (present : report ∈ rowsOf (migrated.run commands).reports) :
    (∀ (granularity : Granularity) (release : Int) (start : Date),
      ((∃ bucket ∈ (migrated.run commands).buckets granularity,
          bucket.report = report.id ∧ bucket.release = release ∧ bucket.start = start) ↔
        ∃ date count reply, 0 < count ∧ granularity.bucketStart? date = some start ∧
          ⟨.record report.id release date count, .ok reply⟩
            ∈ sinceEntered (migrated.trace commands) report.id) ∧
      (((migrated.run commands).buckets granularity).filter fun bucket =>
        bucket.report = report.id ∧ bucket.release = release ∧ bucket.start = start).length ≤ 1 ∧
      ∀ bucket ∈ (migrated.run commands).buckets granularity,
        bucket.report = report.id → bucket.release = release → bucket.start = start →
        ∀ n, bucket.count = .exact n →
          0 < n ∧ n = (((occurrencesOf (migrated.trace commands) report.id).filter
            fun occurrence => occurrence.release = release ∧
              granularity.bucketStart? occurrence.date = some start).map Occurrence.count).sum) ∧
    ∀ n, report.count = .exact n → ∀ granularity,
      Total.ofTallies ((((migrated.run commands).buckets granularity).filter
        (·.report = report.id)).map Bucket.count) = .exact n := by
  have accounted := accounted_run commands keeps
  have sound := sound_migrated.run keeps
  have here : refers (migrated.run commands).reports report.id = true :=
    refers_iff.2 ⟨report, present, rfl⟩
  refine ⟨fun granularity release start => ⟨⟨?_, ?_⟩, ?_, ?_⟩, fun n exact granularity =>
    accounted.total_of_report_exact sound present exact granularity⟩
  · rintro ⟨bucket, member, own, rfl, rfl⟩
    have bucketHere : refers (migrated.run commands).reports bucket.report = true := own ▸ here
    obtain ⟨occurrence, stands, falls⟩ := (accounted.exists_bucket_iff bucketHere).1
      ⟨bucket, member, rfl⟩
    simp only [Occurrence.fallsIn, Bucket.key_eq, decide_eq_true_eq] at falls
    have recorded : occurrence ∈ occurrencesOf (migrated.trace commands) report.id := by
      rw [occurrencesOf_eq_filter_standing, List.mem_filter, decide_eq_true_iff]
      exact ⟨stands, falls.1.trans own⟩
    obtain ⟨-, positive, reply, event⟩ := mem_occurrencesOf_iff.1 recorded
    rw [falls.2.1] at event
    exact ⟨occurrence.date, occurrence.count, reply, positive, falls.2.2, event⟩
  · rintro ⟨date, count, reply, positive, placed, event⟩
    have recorded : ⟨report.id, release, date, count⟩ ∈
        occurrencesOf (migrated.trace commands) report.id :=
      mem_occurrencesOf_iff.2 ⟨rfl, positive, reply, event⟩
    rw [occurrencesOf_eq_filter_standing] at recorded
    have falls : Occurrence.fallsIn granularity (report.id, release, start)
        ⟨report.id, release, date, count⟩ = true := (Occurrence.fallsIn_iff placed).2 rfl
    obtain ⟨bucket, member, same⟩ := (accounted.exists_bucket_iff here).2
      ⟨_, (List.mem_filter.1 recorded).1, falls⟩
    rw [Bucket.key_eq, Prod.mk.injEq, Prod.mk.injEq] at same
    exact ⟨bucket, member, same⟩
  · refine length_filter_key_le_one (pairwise_buckets _ _) (report.id, release, start)
      fun row own => ?_
    rw [decide_eq_true_iff] at own
    rw [Bucket.key_eq, own.1, own.2.1, own.2.2]
  · rintro bucket member own rfl rfl n exact
    have positive := sound.positive granularity bucket member
    rw [exact, Tally.isPositive, decide_eq_true_iff] at positive
    refine ⟨positive, ?_⟩
    rw [← countsIn_standing, ← own]
    exact accounted.eq_sum_of_exact member (own ▸ here) exact

/-- Commands that remove a report with occurrences, enter another one under its id and record
occurrences of it in one week but in two months. -/
def reusedId : List Command :=
  oneReport newYearsEve ++ [.record 1 1 newYearsEve 2, .delete .reports 1,
    .insertReport (some 1) 1 newYearsEve, .record 1 1 newYearsEve 3, .record 1 1 newYearsDay 4]

/-- Nothing of the first report under a reused id is left in the buckets of the second one. -/
theorem buckets_of_reused_id :
    (∀ granularity, Total.ofTallies ((((migrated.run reusedId).buckets granularity).filter
      (·.report = 1)).map Bucket.count) = .exact 7) ∧
      ∃ bucket ∈ (migrated.run reusedId).buckets .daily,
        bucket.report = 1 ∧ bucket.release = 1 ∧ bucket.start = newYearsDay := by
  have account := buckets_account_for_records reusedId (by decide)
    ⟨1, some 1, 1, "core", newYearsEve, newYearsDay, .exact 7⟩ (List.mem_singleton.2 rfl)
  have events : sinceEntered (migrated.trace reusedId) 1 =
      [⟨.record 1 1 newYearsEve 3, .ok .done⟩, ⟨.record 1 1 newYearsDay 4, .ok .done⟩] := rfl
  refine ⟨account.2 7 rfl, (account.1 .daily 1 newYearsDay).1.2
    ⟨newYearsDay, 4, .done, by decide, rfl, ?_⟩⟩
  rw [events]
  simp

end CrashTriage.Store
