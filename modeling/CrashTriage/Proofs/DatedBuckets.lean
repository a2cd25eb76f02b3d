import CrashTriage.Proofs.BucketStart
import CrashTriage.Proofs.RankMeaning
import CrashTriage.Proofs.RecordedDates
import CrashTriage.Proofs.ReportBuckets
import CrashTriage.Proofs.WrittenOrder

/-!
# Clauses on dates

A clause that compares two dates compares their written forms. While all recorded dates are written
without a sign, no bucket starts after year 9999, and then the clauses on the start of a bucket mean
what they say about the calendar.
-/

namespace CrashTriage

variable {bucket : Bucket} {problem : Problem}

/-! ### Dates as they are compared -/

/-- Texts are compared as texts. -/
lemma compare_text (s t : List Char) :
    Scalar.compare (.text s) (.text t) =
      if textBefore s t then .lt else if textBefore t s then .gt else .eq := rfl

/-- Of two dates one is at least the other when it is not written before it. -/
lemma meets_ge_text (a b : Date) :
    Comparison.ge.meets (Scalar.compare (.text a.text) (.text b.text)) = !a.isWrittenBefore b := by
  rw [compare_text, Date.isWrittenBefore]
  cases textBefore a.text b.text with
  | true => rfl
  | false => cases textBefore b.text a.text <;> rfl

/-- Of two dates one is at most the other when the other is not written before it. -/
lemma meets_le_text (a b : Date) :
    Comparison.le.meets (Scalar.compare (.text a.text) (.text b.text)) = !b.isWrittenBefore a := by
  rw [compare_text, Date.isWrittenBefore]
  cases before : textBefore a.text b.text with
  | true => rw [textBefore_asymm before]; rfl
  | false => cases textBefore b.text a.text <;> rfl

/-- A date up to year 9999 is not written before an unsigned one exactly when it is not earlier. -/
lemma not_isWrittenBefore_unsigned {a b : Date} (ha : a.year ≤ 9999) (hb : b.IsUnsigned) :
    (!a.isWrittenBefore b) = decide (b ≤ a) := by
  have order : a.isWrittenBefore b = decide (a < b) := by
    rw [Bool.eq_iff_iff, Date.isWrittenBefore_unsigned_iff ha hb, decide_eq_true_iff]
  rw [order, ← decide_not, decide_eq_decide, Date.lt_def, Date.le_def]
  omega

/-- An unsigned date is not written before one up to year 9999 exactly when it is not earlier. -/
lemma not_unsigned_isWrittenBefore {a b : Date} (ha : a.IsUnsigned) (hb : b.year ≤ 9999) :
    (!a.isWrittenBefore b) = decide (b ≤ a) := by
  have order : a.isWrittenBefore b = decide (a < b) := by
    rw [Bool.eq_iff_iff, Date.unsigned_isWrittenBefore_iff ha hb, decide_eq_true_iff]
  rw [order, ← decide_not, decide_eq_decide, Date.lt_def, Date.le_def]
  omega

/-! ### Where the buckets of a run start -/

namespace Store

variable {events : List Event} {store : Store} {granularity : Granularity}

/-- A bucket starts where the bucket of some occurrence that stands does. -/
lemma Accounted.exists_bucketStart? (accounted : Accounted events store) (sound : store.Sound)
    (member : bucket ∈ store.buckets granularity) :
    ∃ occurrence ∈ standing events,
      granularity.bucketStart? occurrence.date = some bucket.start := by
  obtain ⟨occurrence, stands, falls⟩ := accounted.exists_mem_standing sound member
  simp only [Occurrence.fallsIn, Bucket.key_eq, decide_eq_true_eq] at falls
  exact ⟨occurrence, stands, falls.2.2⟩

/-- Every bucket starts on a boundary. -/
lemma Accounted.isBoundary_start (accounted : Accounted events store) (sound : store.Sound)
    (member : bucket ∈ store.buckets granularity) : granularity.IsBoundary bucket.start := by
  obtain ⟨occurrence, -, placed⟩ := accounted.exists_bucketStart? sound member
  exact Granularity.isBoundary_of_bucketStart? placed

/-- A bucket that holds unsigned dates does not start after year 9999. -/
lemma year_start_le {date start : Date} (unsigned : date.IsUnsigned)
    (placed : granularity.bucketStart? date = some start) : start.year ≤ 9999 :=
  Int.le_trans (Date.year_le_of_le (Granularity.bucketStart?_le placed)) unsigned.2

/-- A store whose problems and buckets have dates that are written in the order of the calendar. -/
structure Dated (store : Store) (granularity : Granularity) : Prop where
  problem : ∀ row ∈ rowsOf store.problems, row.first.IsUnsigned ∧ row.last.IsUnsigned
  bucket : ∀ row ∈ store.buckets granularity, row.start.year ≤ 9999

/-- Unsigned dates in all commands make for such a store. -/
lemma dated_run (commands : List Command)
    (keeps : ∀ command ∈ commands, command.keepsTables = true)
    (dates : ∀ command ∈ commands, ∀ date ∈ command.dates, date.IsUnsigned)
    (granularity : Granularity) : Dated (migrated.run commands) granularity where
  problem := problem_dates_of_run commands keeps dates
  bucket row member := by
    obtain ⟨occurrence, stands, placed⟩ :=
      (accounted_run commands keeps).exists_bucketStart? (sound_migrated.run keeps) member
    exact year_start_le (date_of_mem_standing dates stands) placed

end Store

end CrashTriage
