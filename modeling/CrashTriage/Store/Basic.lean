import CrashTriage.Calendar.Text
import CrashTriage.Granularity
import CrashTriage.Store.Ledger
import CrashTriage.Store.Register
import CrashTriage.Store.Tally

/-!
# The occurrence store

The rows the store keeps, its ten tables and the log of its migrations. Every table may be absent:
a new store has none, and tables can be dropped.
-/

namespace CrashTriage

/-! ### Rows -/

/-- An operating system. -/
structure OpSys where
  id : Int
  name : String
deriving DecidableEq

/-- A release of an operating system. -/
structure Release where
  id : Int
  opsys : Int
  version : String
  status : String
deriving DecidableEq

/-- A component (a package) of an operating system, to which crashes are attributed. -/
structure Component where
  id : Int
  opsys : Int
  name : String
deriving DecidableEq

/-- A problem: a cluster of reports, and the dates between which they occurred. -/
structure Problem where
  id : Int
  first : Date
  last : Date
deriving DecidableEq

/-- A component involved in a problem, and its place among the components involved. -/
structure ComponentLink where
  problem : Int
  component : Int
  order : Int
deriving DecidableEq

/-- A release in which a problem occurs, and the build that probably fixes it there. -/
structure ReleaseLink where
  problem : Int
  release : Int
  fix : Option String
deriving DecidableEq

/-- A report: one crash signature, which may belong to a problem. -/
structure Report where
  id : Int
  problem : Option Int
  component : Int
  kind : String
  first : Date
  last : Date
  count : Tally

/-- The occurrences of a report in a release during the bucket that starts on a date. -/
structure Bucket where
  report : Int
  release : Int
  start : Date
  count : Tally

instance : Identified OpSys := ⟨OpSys.id⟩
instance : Identified Release := ⟨Release.id⟩
instance : Identified Component := ⟨Component.id⟩
instance : Identified Problem := ⟨Problem.id⟩
instance : Identified Report := ⟨Report.id⟩
instance : Keyed ComponentLink (Int × Int) := ⟨fun link => (link.problem, link.component)⟩
instance : Keyed ReleaseLink (Int × Int) := ⟨fun link => (link.problem, link.release)⟩
instance : Keyed Bucket (Int × Int × Date) :=
  ⟨fun bucket => (bucket.report, bucket.release, bucket.start)⟩

/-! ### Tables -/

/-- The occurrence history: one ledger of buckets for each granularity. -/
structure History where
  daily : Option (Ledger Bucket) := none
  weekly : Option (Ledger Bucket) := none
  monthly : Option (Ledger Bucket) := none

namespace History

/-- The buckets of a granularity. -/
def get (history : History) : Granularity → Option (Ledger Bucket)
  | .daily => history.daily
  | .weekly => history.weekly
  | .monthly => history.monthly

/-- The history with other buckets of one granularity. -/
def set (history : History) (granularity : Granularity) (buckets : Option (Ledger Bucket)) :
    History :=
  match granularity with
  | .daily => { history with daily := buckets }
  | .weekly => { history with weekly := buckets }
  | .monthly => { history with monthly := buckets }

@[simp] theorem get_set (history : History) (g h : Granularity)
    (buckets : Option (Ledger Bucket)) :
    (history.set g buckets).get h = if h = g then buckets else history.get h := by
  cases g <;> cases h <;> rfl

/-- The history after a change of the buckets of every granularity. -/
def map (history : History) (change : Ledger Bucket → Ledger Bucket) : History where
  daily := history.daily.map change
  weekly := history.weekly.map change
  monthly := history.monthly.map change

@[simp] theorem get_map (history : History) (change : Ledger Bucket → Ledger Bucket)
    (g : Granularity) : (history.map change).get g = (history.get g).map change := by
  cases g <;> rfl

end History

/-- The log of migrations: which of the two have been applied. -/
structure MigrationLog where
  schema : Bool := false
  indexes : Bool := false
deriving DecidableEq

/-- The rows of the log: the number and the name of each applied migration. -/
def MigrationLog.rows (log : MigrationLog) : List (Int × String) :=
  (if log.schema then [(1, "001_initial")] else [])
    ++ (if log.indexes then [(2, "002_ranking_indexes")] else [])

/-- The tables of the store. -/
inductive TableName where
  | migrations
  | opsys
  | releases
  | components
  | problems
  | componentLinks
  | releaseLinks
  | reports
  | history (granularity : Granularity)
deriving DecidableEq

/-- The name of a table in messages. -/
def TableName.text : TableName → String
  | .migrations => "_migrations"
  | .opsys => "opsys"
  | .releases => "opsys_releases"
  | .components => "components"
  | .problems => "problems"
  | .componentLinks => "problem_components"
  | .releaseLinks => "problem_opsysreleases"
  | .reports => "reports"
  | .history .daily => "report_history_daily"
  | .history .weekly => "report_history_weekly"
  | .history .monthly => "report_history_monthly"

/-- Every table of the store. -/
def TableName.all : List TableName :=
  [.migrations, .opsys, .releases, .components, .problems, .componentLinks, .releaseLinks,
    .reports, .history .daily, .history .weekly, .history .monthly]

/-- The table with a given name in messages. -/
def TableName.ofText? (text : String) : Option TableName :=
  TableName.all.find? fun table => table.text = text

/-- The column that dates the buckets of a granularity. -/
def Granularity.dateColumn : Granularity → String
  | .daily => "day"
  | .weekly => "week"
  | .monthly => "month"

/-- The occurrence store. -/
structure Store where
  /-- The tables that are present, the one created last first. -/
  created : List TableName := []
  /-- The granularities for which the statement that counts occurrences is prepared. -/
  prepared : List Granularity := []
  migrations : Option MigrationLog := none
  opsys : Option (Register OpSys) := none
  releases : Option (Register Release) := none
  components : Option (Register Component) := none
  problems : Option (Register Problem) := none
  componentLinks : Option (Ledger ComponentLink) := none
  releaseLinks : Option (Ledger ReleaseLink) := none
  reports : Option (Register Report) := none
  history : History := {}

namespace Store

/-- The store without tables. -/
def blank : Store := {}

/-- Whether a table is present. -/
def has (store : Store) : TableName → Bool
  | .migrations => store.migrations.isSome
  | .opsys => store.opsys.isSome
  | .releases => store.releases.isSome
  | .components => store.components.isSome
  | .problems => store.problems.isSome
  | .componentLinks => store.componentLinks.isSome
  | .releaseLinks => store.releaseLinks.isSome
  | .reports => store.reports.isSome
  | .history granularity => (store.history.get granularity).isSome

/-! ### Rows of tables that may be absent -/

/-- The rows of a register, none when the register is absent. -/
def rowsOf {ρ : Type} [Identified ρ] (register : Option (Register ρ)) : List ρ :=
  (register.map Register.rows).getD []

/-- The rows of a ledger, none when the ledger is absent. -/
def entriesOf {ρ κ : Type} [Keyed ρ κ] (ledger : Option (Ledger ρ)) : List ρ :=
  (ledger.map Ledger.rows).getD []

/-- The buckets of a granularity, none when their table is absent. -/
def buckets (store : Store) (granularity : Granularity) : List Bucket :=
  entriesOf (store.history.get granularity)

end Store

end CrashTriage
