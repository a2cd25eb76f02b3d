import CrashTriage.Calendar.LooseText
import CrashTriage.Http.IdList
import CrashTriage.Ranking.Components
import CrashTriage.Ranking.Hot
import CrashTriage.Ranking.LongTerm
import CrashTriage.Settings.Basic
import CrashTriage.Store.Session

/-!
# The ranking service

The requests that the service answers and its answers: rankings of hot and long-term problems,
single problems, releases, totals of components, and its own health. The service only reads the
store. A date that leaves the calendar's range during the work on the store is an internal error
like every other failure there; before that work it is the one failure without an answer.
-/

namespace CrashTriage

/-- What the service works with: a session, the settings of rankings, and today's date. -/
structure Service where
  session : Session
  ranking : RankingSettings := {}
  today : Date

/-- What an answer says. -/
inductive Body where
  | error (message : String)
  | health (isWell : Bool)
  | ranking (granularity : Granularity) (problems : List RankedProblem)
  | problem (problem : Problem)
  | releases (ids : List Int)
  | componentStats (granularity : Granularity) (total : Int) (components : List ComponentCount)

/-- An answer: its status, and what it says unless the status says it all. -/
structure Response where
  status : Nat
  body : Option Body := none

namespace Response

/-- The answer to a request that could be served. -/
def ok (body : Body) : Response := ⟨200, some body⟩

/-- The answer to a request that could not be served. -/
def ofError (error : ApiError) : Response := ⟨error.status, some (.error error.publicMessage)⟩

/-- A request that cannot be read. -/
def badRequest : Response := { status := 400 }

/-- A request for something that the service does not have. -/
def notFound : Response := { status := 404 }

/-- A request with a method that the service does not offer there. -/
def methodNotAllowed : Response := { status := 405 }

end Response

/-! ### Queries -/

/-- The fields of a request for the hot ranking. -/
structure HotFields where
  releases : Option String
  components : Option String
  since : Option Date
  history : Option String
  limit : Option Nat
deriving DecidableEq

/-- The fields of a request for the long-term ranking. -/
structure LongTermFields where
  releases : Option String
  components : Option String
  history : Option String
  limit : Option Nat
deriving DecidableEq

/-- The fields of a request about an operating system. -/
structure OpSysFields where
  opsys : Option String
  version : Option String
  history : Option String
deriving DecidableEq

/-- A field that is absent or has to be readable. -/
def readFormField {α : Type} (read : List Char → Option α) (value : Option String) :
    Option (Option α) :=
  match value with
  | none => some none
  | some text => (read text.toList).map some

/-- Reads the fields of a request for the hot ranking. -/
def HotFields.ofForm? (fields : List FormField) : Option HotFields := do
  let releases ← formValue? fields "releases"
  let components ← formValue? fields "components"
  let since ← readFormField Date.ofLooseText? (← formValue? fields "since")
  let history ← formValue? fields "history"
  let limit ← readFormField Numeral.nat64? (← formValue? fields "limit")
  pure { releases, components, since, history, limit }

/-- Reads the fields of a request for the long-term ranking. -/
def LongTermFields.ofForm? (fields : List FormField) : Option LongTermFields := do
  let releases ← formValue? fields "releases"
  let components ← formValue? fields "components"
  let history ← formValue? fields "history"
  let limit ← readFormField Numeral.nat64? (← formValue? fields "limit")
  pure { releases, components, history, limit }

/-- Reads the fields of a request about an operating system. -/
def OpSysFields.ofForm? (fields : List FormField) : Option OpSysFields := do
  let opsys ← formValue? fields "opsys"
  let version ← formValue? fields "version"
  let history ← formValue? fields "history"
  pure { opsys, version, history }

/-! ### Handlers -/

namespace Service

/-- The result of work on the store, or the error that its failure becomes. -/
def consult {α : Type} (service : Service) (lookup : Store → Except Failure α) :
    Except ApiError α :=
  match service.session.read lookup with
  | .ok result => .ok result
  | .error failure => .error (.ofFailure failure)

/-- Whether a connection to the store can be had. -/
def health (service : Service) : Body := .health service.session.isOpen

/-- The cutoff of the hot ranking. The one that the settings give has to be a date of the
calendar's range even when the request gives another. -/
def cutoff (service : Service) (since : Option Date) : Except Failure Date := do
  let standard ← inRange (service.today.addDays? (-service.ranking.hotWindowDays))
  pure (since.getD standard)

/-- The first rows of the hot ranking. -/
def hot (service : Service) (fields : HotFields) : Except Failure (Except ApiError Body) :=
  match (do pure (← releaseSelection fields.releases, ← componentSelection fields.components)) with
  | .error error => .ok (.error error)
  | .ok (releases, components) => do
    let token := fields.history.getD "daily"
    let cutoff ← service.cutoff fields.since
    pure do
      let problems ← service.consult fun store =>
        store.hotProblems token releases components (some cutoff) service.today
      pure (.ranking (.ofToken token) (problems.take (service.ranking.clampLimit fields.limit)))

/-- The first rows of the long-term ranking. -/
def longTerm (service : Service) (fields : LongTermFields) : Except ApiError Body := do
  let releases ← releaseSelection fields.releases
  let components ← componentSelection fields.components
  let token := fields.history.getD "monthly"
  let problems ← service.consult fun store =>
    store.longTermProblems token releases components service.today
  pure (.ranking (.ofToken token) (problems.take (service.ranking.clampLimit fields.limit)))

/-- The problem with an id. -/
def problem (service : Service) (id : Int) : Except ApiError Body := do
  match ← service.consult fun store => store.getProblem? id with
  | some problem => pure (.problem problem)
  | none =>
    throw (.notFound ("problem " ++ String.ofList (Numeral.ofInt id) ++ " not found"))

/-- The ids of the releases of an operating system. -/
def releases (service : Service) (fields : OpSysFields) : Except ApiError Body := do
  let ids ← service.consult fun store => store.releaseIds fields.opsys fields.version
  pure (.releases ids)

/-- The totals of an operating system, altogether and for each component. -/
def componentStats (service : Service) (fields : OpSysFields) : Except ApiError Body := do
  let granularity := Granularity.ofToken (fields.history.getD "monthly")
  let (total, components) ← service.consult fun store => do
    let total ← store.historySum fields.opsys fields.version granularity
    let components ← store.componentCounts fields.opsys fields.version granularity
    pure (total, components)
  pure (.componentStats granularity total components)

end Service

end CrashTriage
