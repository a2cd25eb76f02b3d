import CrashTriage.Proofs.AnsweredRequests

/-!
# Failures that tell nothing

A request that the service refuses as unreadable is refused by every service, whatever its store,
its pool, its settings and its date, and with the same answer. A request that can be read fails in
one way only: whatever the store or the pool fails at, the answer is the same. The health of a
service is always told, and it is bad exactly when the store cannot be reached.
-/

namespace CrashTriage

/-! ### Statuses -/

/-- The answer to a request for which the work on the store fails. -/
def Response.internalError : Response := ⟨500, some (.error "internal server error")⟩

/-- Nothing of a failure can be seen in its answer. -/
lemma ofError_ofFailure (failure : Failure) :
    Response.ofError (.ofFailure failure) = .internalError := by
  cases failure <;> rfl

/-- To leave the body out does not change the status. -/
lemma Request.status_trim (request : Request) (response : Response) :
    (request.trim response).status = response.status := by
  unfold trim
  split <;> rfl

/-- Lists of ids are refused as bad requests. -/
lemma status_of_readSelections {releases components : Option String} {error : ApiError}
    (refused : readSelections releases components = .error error) : error.status = 400 :=
  Decidable.byContradiction fun elsewhere =>
    readSelections_avoids elsewhere releases components refused

lemma status_of_ofSelections {releases components : Option String}
    {make : ReleaseSelection → Option (List Int) → Inquiry} {refused : Response}
    (read : Inquiry.ofSelections releases components make = .error refused) :
    refused.status = 400 := by
  unfold Inquiry.ofSelections at read
  split at read
  · rename_i error bad
    cases read
    exact status_of_readSelections bad
  · cases read

/-- What is refused on a route is a bad request. -/
lemma Route.status_of_read {route : Route} {query : List UInt8} {refused : Response}
    (read : route.read query = .error refused) : refused.status = 400 := by
  unfold Route.read at read
  rcases route with _ | _ | _ | segment | _ | _ <;> dsimp only at read
  case health => cases read
  case hot | longTerm =>
    split at read
    · cases read
      rfl
    · exact status_of_ofSelections read
  case problem | releases | componentStats =>
    split at read
    · cases read
      rfl
    · cases read

namespace Service

variable {service : Service} {inquiry : Inquiry}

/-- What the store has for an inquiry is an answer, or that there is no such problem. -/
lemma status_of_lookup {look : Store → Except Failure Response}
    (found : service.lookup inquiry = .ok look) {response : Response}
    (read : service.session.read look = .ok response) :
    response.status = 200 ∨ response.status = 404 := by
  obtain ⟨-, answered⟩ := Session.read_eq_ok_iff.1 read
  cases inquiry with
  | health =>
    cases found
    cases answered
    exact .inl rfl
  | hot token releases components since limit =>
    obtain ⟨cutoff, -, shape⟩ := bind_eq_ok_iff.1 found
    rw [← pure_eq_ok_iff.1 shape] at answered
    obtain ⟨rows, -, rfl⟩ := map_eq_ok_iff.1 answered
    exact .inl rfl
  | longTerm token releases components limit =>
    cases found
    obtain ⟨rows, -, rfl⟩ := map_eq_ok_iff.1 answered
    exact .inl rfl
  | problem id =>
    cases found
    obtain ⟨problem, -, rfl⟩ := map_eq_ok_iff.1 answered
    cases problem with
    | none => exact .inr rfl
    | some problem => exact .inl rfl
  | releases opsys version =>
    cases found
    obtain ⟨ids, -, rfl⟩ := map_eq_ok_iff.1 answered
    exact .inl rfl
  | componentStats opsys version granularity =>
    cases found
    obtain ⟨total, -, rest⟩ := bind_eq_ok_iff.1 answered
    obtain ⟨components, -, shape⟩ := bind_eq_ok_iff.1 rest
    rw [← pure_eq_ok_iff.1 shape]
    exact .inl rfl

/-- An inquiry is answered with what the store has, if it has an answer. -/
lemma settle_of_read {look : Store → Except Failure Response} {response : Response}
    (answered : service.session.read look = .ok response) :
    service.settle inquiry.failed look = response := by
  unfold settle
  rw [answered]

/-- When the work on the store fails, the answer is always the same one, except for the health. -/
lemma settle_of_failure (other : inquiry ≠ .health) {look : Store → Except Failure Response}
    {failure : Failure} (failed : service.session.read look = .error failure) :
    service.settle inquiry.failed look = .internalError := by
  unfold settle
  rw [failed]
  cases inquiry with
  | health => exact absurd rfl other
  | _ => exact ofError_ofFailure failure

/-- The health is told whether the store can be reached or not. -/
lemma reply_health : service.reply .health = .ok (.ok (.health service.session.isOpen)) := by
  unfold reply lookup settle Session.read
  rcases service.session.isOpen with isClosed | isOpen <;> rfl

/-- No inquiry is answered as a bad request. -/
lemma status_of_reply {response : Response} (replied : service.reply inquiry = .ok response) :
    response.status ≠ 400 := by
  by_cases health : inquiry = .health
  · rw [health, reply_health] at replied
    cases replied
    change (200 : Nat) ≠ 400
    decide
  · obtain ⟨look, found, rfl⟩ := map_eq_ok_iff.1 replied
    cases outcome : service.session.read look with
    | error failure =>
      rw [settle_of_failure health outcome]
      decide
    | ok response =>
      rw [settle_of_read outcome]
      have status := status_of_lookup found outcome
      omega

/-- A request is answered as a bad request exactly when it is refused as one, before the service is
asked. -/
lemma status_of_respond {request : Request} {response : Response}
    (answered : service.respond request = .ok response) :
    response.status = 400 ↔ ∃ refused, request.read = .error refused ∧ refused.status = 400 := by
  cases read : request.read with
  | error refused =>
    rw [respond_of_refused read] at answered
    cases answered
    rw [Request.status_trim]
    constructor
    · intro bad
      exact ⟨refused, rfl, bad⟩
    · rintro ⟨other, same, bad⟩
      cases same
      exact bad
  | ok inquiry =>
    rw [respond_of_inquiry read] at answered
    obtain ⟨reply, replied, rfl⟩ := map_eq_ok_iff.1 answered
    rw [Request.status_trim]
    constructor
    · intro bad
      exact absurd bad (status_of_reply replied)
    · rintro ⟨refused, same, -⟩
      cases same

end Service

/-! ### What the answers to failures depend on -/

/-- A request for a ranking whose fields can be read, but not the ids listed in them. -/
structure Request.ListsBadId (request : Request) : Prop where
  method : request.method = "GET" ∨ request.method = "HEAD"
  fields : (Route.ofPath? request.pathAndQuery.1 = some .hot ∧
      ∃ fields, HotFields.ofForm? (formFields request.pathAndQuery.2) = some fields ∧
        ∃ error, readSelections fields.releases fields.components = .error error) ∨
    (Route.ofPath? request.pathAndQuery.1 = some .longTerm ∧
      ∃ fields, LongTermFields.ofForm? (formFields request.pathAndQuery.2) = some fields ∧
        ∃ error, readSelections fields.releases fields.components = .error error)

/-- Such a request is refused as a bad one. -/
lemma Request.ListsBadId.read {request : Request} (bad : request.ListsBadId) :
    ∃ refused, request.read = .error refused ∧ refused.status = 400 := by
  have refuse {releases components : Option String} {error : ApiError}
      (make : ReleaseSelection → Option (List Int) → Inquiry)
      (lists : readSelections releases components = .error error) :
      ∃ refused, Inquiry.ofSelections releases components make = .error refused ∧
        refused.status = 400 := by
    unfold Inquiry.ofSelections
    rw [lists]
    exact ⟨_, rfl, status_of_readSelections lists⟩
  unfold Request.read
  rcases bad.fields with
    ⟨route, fields, readable, error, lists⟩ | ⟨route, fields, readable, error, lists⟩
  all_goals
    rw [route]
    dsimp only
    rw [if_pos bad.method]
    unfold Route.read
    dsimp only
    rw [readable]
    exact refuse _ lists

namespace Service

/-- What the answer to a request that fails depends on. Whether it is a bad request depends on the
request alone, and a list with something that is no id makes it one even for a service whose pool is
closed. A request that can be read and does not ask for the health fails in one way, whichever of
the failures of store and pool the service meets when it looks something up; and it does not fail in
this way otherwise. A request for the health is always answered, and the health is bad exactly when
no lookup reaches the store. -/
theorem failures_depend_on_request (request : Request) :
    (∀ (service service' : Service) response response', service.respond request = .ok response →
      service'.respond request = .ok response' →
      (response.status = 400 ↔ response'.status = 400)) ∧
    (request.ListsBadId → ∀ service : Service, ∃ response,
      service.respond request = .ok response ∧ response.status = 400) ∧
    (∀ inquiry, request.read = .ok inquiry → inquiry ≠ .health →
      ∀ (service : Service) look, service.lookup inquiry = .ok look →
        (∀ failure, service.session.read look = .error failure →
          service.respond request = .ok (request.trim .internalError)) ∧
        ∀ response, service.session.read look = .ok response →
          service.respond request = .ok (request.trim response) ∧ response.status ≠ 500) ∧
    (request.read = .ok .health → ∀ service : Service, ∃ isWell,
      service.respond request = .ok (request.trim (.ok (.health isWell))) ∧
        (isWell = false ↔ ∀ look : Store → Except Failure Unit,
          service.session.read look = .error .poolClosed)) := by
  refine ⟨?_, ?_, ?_, ?_⟩
  · intro service service' response response' answered answered'
    exact (status_of_respond answered).trans (status_of_respond answered').symm
  · intro bad service
    obtain ⟨refused, read, status⟩ := bad.read
    exact ⟨request.trim refused, respond_of_refused read service,
      (request.status_trim refused).trans status⟩
  · intro inquiry read other service look found
    have answered : service.respond request
        = .ok (request.trim (service.settle inquiry.failed look)) := by
      rw [respond_of_inquiry read]
      unfold reply
      rw [found]
      rfl
    refine ⟨fun failure failed => ?_, fun response outcome => ?_⟩
    · rw [answered, settle_of_failure other failed]
    · rw [answered, settle_of_read outcome]
      have status := status_of_lookup found outcome
      exact ⟨rfl, by omega⟩
  · intro read service
    refine ⟨service.session.isOpen, ?_, ?_⟩
    · rw [respond_of_inquiry read, reply_health]
      rfl
    · unfold Session.read
      constructor
      · intro isClosed look
        rw [isClosed]
        rfl
      · intro unreached
        have outcome := unreached fun _ => .ok ()
        split at outcome
        · cases outcome
        · rename_i isClosed
          exact Bool.eq_false_iff.2 isClosed

/-- A service whose pool is closed. -/
def withClosedPool : Service where
  session := { store := Store.migrated, isOpen := false }
  today := Store.newYearsDay

/-- A service on a store without tables. -/
def withoutTables : Service where
  session := { store := Store.blank }
  today := Store.newYearsDay

/-- A request for the hot ranking of two releases, one of which is no id. -/
def requestBadId : Request := { target := "/v1/problems/hot?releases=1,x" }

/-- A request for all releases. -/
def requestReleases : Request := { target := "/v1/releases" }

lemma requestBadId_listsBadId : requestBadId.ListsBadId where
  method := .inl rfl
  fields := .inl ⟨by decide +kernel, ⟨some "1,x", none, none, none, none⟩, by decide +kernel,
    invalidId "releases" ['x'], rfl⟩

/-- A list with something that is no id is refused although the pool is closed. Releases cannot be
had through a closed pool or from a store without tables, and the two answers cannot be told
apart. -/
theorem failures_of_closedPool :
    (∃ response, withClosedPool.respond requestBadId = .ok response ∧ response.status = 400) ∧
      withClosedPool.respond requestReleases = .ok .internalError ∧
      withoutTables.respond requestReleases = .ok .internalError ∧
      ∃ isWell, withClosedPool.respond { target := "/health" } = .ok (.ok (.health isWell)) ∧
        isWell = false := by
  obtain ⟨-, badId, -, -⟩ := failures_depend_on_request requestBadId
  obtain ⟨-, -, failures, -⟩ := failures_depend_on_request requestReleases
  obtain ⟨-, -, -, health⟩ := failures_depend_on_request { target := "/health" }
  have asks : requestReleases.read = .ok (.releases none none) :=
    Request.read_eq_ok_iff.2 (by decide +kernel)
  have asksHealth : Request.read { target := "/health" } = .ok .health :=
    Request.read_eq_ok_iff.2 (by decide +kernel)
  obtain ⟨isWell, told, isBad⟩ := health asksHealth withClosedPool
  refine ⟨badId requestBadId_listsBadId withClosedPool, ?_, ?_, isWell, told, isBad.2 fun _ => rfl⟩
  · exact (failures _ asks nofun withClosedPool _ rfl).1 _ rfl
  · exact (failures _ asks nofun withoutTables _ rfl).1 _ rfl

end Service

end CrashTriage
