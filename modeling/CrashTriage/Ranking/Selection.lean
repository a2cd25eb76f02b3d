import CrashTriage.Store.Basic

/-!
# What a ranking counts

The buckets of a granularity that belong to a problem, each with its problem, and the conditions
by which a ranking selects among them: a choice of releases and any number of clauses that compare
a column with a date, a number or another column. Numbers come before texts, and texts are
compared character by character.
-/

namespace CrashTriage

/-- Which releases count. -/
inductive ReleaseSelection where
  | all
  | only (ids : List Int)
deriving DecidableEq

namespace ReleaseSelection

/-- Whether a selection leaves no release. -/
def isEmpty : ReleaseSelection → Bool
  | .all => false
  | .only ids => ids.isEmpty

/-- Whether a selection has a release. -/
def has : ReleaseSelection → Int → Bool
  | .all, _ => true
  | .only ids, release => release ∈ ids

end ReleaseSelection

/-- A bucket and the problem that its report belongs to. -/
structure Share where
  bucket : Bucket
  problem : Problem

/-! ### Columns and clauses -/

/-- The columns that a clause may name. -/
inductive Column where
  /-- The start of the bucket. -/
  | bucketStart
  /-- The first occurrence of the problem. -/
  | firstOccurrence
  /-- The last occurrence of the problem. -/
  | lastOccurrence
  /-- The id of the problem. -/
  | problemId
  /-- The problem that the report refers to. -/
  | reportProblem
  /-- The release of the bucket. -/
  | release
  /-- The number of occurrences in the bucket. -/
  | bucketCount
deriving DecidableEq

/-- A value in a comparison. -/
inductive Scalar where
  | number (tally : Tally)
  | text (chars : List Char)

/-- The order of tallies; an approximate one has left 64 bits upwards, so it comes after every
exact one. -/
def Tally.compare : Tally → Tally → Ordering
  | .exact m, .exact n => Ord.compare m n
  | .exact _, .approximate _ => .lt
  | .approximate _, .exact _ => .gt
  | .approximate x, .approximate y => if x < y then .lt else if y < x then .gt else .eq

/-- The order of values: numbers first. -/
def Scalar.compare : Scalar → Scalar → Ordering
  | .number m, .number n => m.compare n
  | .number _, .text _ => .lt
  | .text _, .number _ => .gt
  | .text s, .text t => if textBefore s t then .lt else if textBefore t s then .gt else .eq

namespace Column

/-- Whether a column holds dates, which are compared as texts. -/
def holdsDates : Column → Bool
  | .bucketStart | .firstOccurrence | .lastOccurrence => true
  | .problemId | .reportProblem | .release | .bucketCount => false

/-- The value of a column. -/
def value (share : Share) : Column → Scalar
  | .bucketStart => .text share.bucket.start.text
  | .firstOccurrence => .text share.problem.first.text
  | .lastOccurrence => .text share.problem.last.text
  | .problemId | .reportProblem => .number (.exact share.problem.id)
  | .release => .number (.exact share.bucket.release)
  | .bucketCount => .number share.bucket.count

/-- A number as it is compared with a column: beside dates it is a text. -/
def numberBeside (column : Column) (n : Int) : Scalar :=
  if column.holdsDates then .text (Numeral.ofInt n) else .number (.exact n)

end Column

/-- How a clause compares. -/
inductive Comparison where
  | eq
  | ne
  | lt
  | le
  | gt
  | ge
deriving DecidableEq

/-- Whether two values in a given order meet a comparison. -/
def Comparison.meets : Comparison → Ordering → Bool
  | .eq, order => order = .eq
  | .ne, order => order ≠ .eq
  | .lt, order => order = .lt
  | .le, order => order ≠ .gt
  | .gt, order => order = .gt
  | .ge, order => order ≠ .lt

/-- What a clause compares a column with. -/
inductive Operand where
  | date (day : Date)
  | number (n : Int)
  | column (name : Column)
deriving DecidableEq

/-- The value of an operand beside a column. -/
def Operand.value (share : Share) (column : Column) : Operand → Scalar
  | .date day => .text day.text
  | .number n => column.numberBeside n
  | .column name => name.value share

/-- A condition on a bucket and its problem. -/
inductive Clause where
  /-- A column compared with an operand. -/
  | compare (column : Column) (comparison : Comparison) (operand : Operand)
  /-- A column that equals one of some numbers. -/
  | oneOf (column : Column) (values : List Int)
deriving DecidableEq

/-- Whether a bucket and its problem meet a clause. -/
def Clause.holds (share : Share) : Clause → Bool
  | .compare column comparison operand =>
    comparison.meets ((column.value share).compare (operand.value share column))
  | .oneOf column values =>
    values.any fun n =>
      Comparison.eq.meets ((column.value share).compare (column.numberBeside n))

end CrashTriage
