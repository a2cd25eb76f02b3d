import CrashTriage.Http.Router
import CrashTriage.Proofs.Statements

/-!
# What requests ask for

A request is read before the service is asked. One that cannot be read is refused, with an answer
that does not depend on the service. One that can be read makes an inquiry, for which the service
looks one thing up in the store: it answers with what it finds there, or, when it cannot look, with
an answer that does not depend on the reason.
-/

namespace CrashTriage

/-! ### Reading a request -/

/-- What a request that can be read asks for. -/
inductive Inquiry where
  | health
  | hot (token : String) (releases : ReleaseSelection)
      (components : Option (List Int)) (since : Option Date) (limit : Option Nat)
  | longTerm (token : String) (releases : ReleaseSelection)
      (components : Option (List Int)) (limit : Option Nat)
  | problem (id : Int)
  | releases (opsys version : Option String)
  | componentStats (opsys version : Option String) (granularity : Granularity)
deriving DecidableEq

/-- The selections that the fields for releases and components make. -/
def readSelections (releases components : Option String) :
    Except ApiError (ReleaseSelection × Option (List Int)) := do
  pure (← releaseSelection releases, ← componentSelection components)

/-- The inquiry that is made of two selections, or the answer that refuses their lists of ids. -/
def Inquiry.ofSelections (releases components : Option String)
    (make : ReleaseSelection → Option (List Int) → Inquiry) : Except Response Inquiry :=
  match readSelections releases components with
  | .error error => .error (.ofError error)
  | .ok (selection, listed) => .ok (make selection listed)

/-- The inquiry that a query makes on a route, or the answer that refuses it. -/
def Route.read (query : List UInt8) : Route → Except Response Inquiry
  | .health => .ok .health
  | .hot =>
    match HotFields.ofForm? (formFields query) with
    | none => .error .badRequest
    | some fields =>
      Inquiry.ofSelections fields.releases fields.components fun selection components =>
        .hot (fields.history.getD "daily") selection components fields.since fields.limit
  | .longTerm =>
    match LongTermFields.ofForm? (formFields query) with
    | none => .error .badRequest
    | some fields =>
      Inquiry.ofSelections fields.releases fields.components fun selection components =>
        .longTerm (fields.history.getD "monthly") selection components fields.limit
  | .problem segment =>
    match (Utf8.decode? (percentDecode segment)).bind Numeral.int64? with
    | none => .error .badRequest
    | some id => .ok (.problem id)
  | .releases =>
    match OpSysFields.ofForm? (formFields query) with
    | none => .error .badRequest
    | some fields => .ok (.releases fields.opsys fields.version)
  | .componentStats =>
    match OpSysFields.ofForm? (formFields query) with
    | none => .error .badRequest
    | some fields =>
      .ok (.componentStats fields.opsys fields.version (.ofToken (fields.history.getD "monthly")))

/-- The inquiry that a request makes, or the answer that refuses it. -/
def Request.read (request : Request) : Except Response Inquiry :=
  match Route.ofPath? request.pathAndQuery.1 with
  | none => .error .notFound
  | some route =>
    if request.method = "GET" ∨ request.method = "HEAD" then route.read request.pathAndQuery.2
    else .error .methodNotAllowed

/-- Whether a request makes an inquiry can be decided. -/
lemma Request.read_eq_ok_iff {request : Request} {inquiry : Inquiry} :
    request.read = .ok inquiry ↔ request.read.toOption = some inquiry := by
  cases request.read with
  | error refused => exact ⟨nofun, nofun⟩
  | ok found => simp [Except.toOption]

/-- An answer as the method of a request wants it: a HEAD request gets no body. -/
def Request.trim (request : Request) (response : Response) : Response :=
  if request.method = "HEAD" then { response with body := none } else response

lemma Request.trim_of_get {request : Request} (isGet : request.method = "GET") :
    request.trim = id := by
  funext response
  unfold trim
  rw [isGet, if_neg (by decide)]
  rfl

lemma Request.trim_of_head {request : Request} (isHead : request.method = "HEAD") :
    request.trim = fun response => { response with body := none } := by
  funext response
  exact if_pos isHead

/-! ### Answering an inquiry -/

/-- A session reads its store when it is open. -/
lemma Session.read_eq_ok_iff {α : Type} {session : Session} {look : Store → Except Failure α}
    {a : α} : session.read look = .ok a ↔ session.isOpen = true ∧ look session.store = .ok a := by
  unfold read
  split
  · rename_i isOpen
    exact (and_iff_right isOpen).symm
  · rename_i isClosed
    exact ⟨nofun, fun both => absurd both.1 isClosed⟩

/-- The answer to an inquiry when nothing can be looked up for it. -/
def Inquiry.failed : Inquiry → Failure → Response
  | .health, _ => .ok (.health false)
  | _, failure => .ofError (.ofFailure failure)

namespace Service

/-- The answers that the store has for an inquiry. There are none when the cutoff of the settings is
needed and is no date. -/
def lookup (service : Service) : Inquiry → Except Failure (Store → Except Failure Response)
  | .health => .ok fun _ => .ok (.ok (.health true))
  | .hot token releases components since limit => do
    let cutoff ← service.cutoff since
    pure fun store =>
      (fun rows => .ok (.ranking (.ofToken token) (rows.take (service.ranking.clampLimit limit))))
        <$> store.hotProblems token releases components (some cutoff) service.today
  | .longTerm token releases components limit => .ok fun store =>
    (fun rows => .ok (.ranking (.ofToken token) (rows.take (service.ranking.clampLimit limit))))
      <$> store.longTermProblems token releases components service.today
  | .problem id => .ok fun store =>
    (fun
      | some problem => .ok (.problem problem)
      | none => .ofError (.notFound
          ("problem " ++ String.ofList (Numeral.ofInt id) ++ " not found")))
      <$> store.getProblem? id
  | .releases opsys version => .ok fun store =>
    (fun ids => .ok (.releases ids)) <$> store.releaseIds opsys version
  | .componentStats opsys version granularity => .ok fun store => do
    let total ← store.historySum opsys version granularity
    let components ← store.componentCounts opsys version granularity
    pure (.ok (.componentStats granularity total components))

/-- The answer that the store has, or the one that its failure becomes. -/
def settle (service : Service) (failed : Failure → Response)
    (look : Store → Except Failure Response) : Response :=
  match service.session.read look with
  | .ok response => response
  | .error failure => failed failure

/-- The answer to an inquiry. -/
def reply (service : Service) (inquiry : Inquiry) : Except Failure Response :=
  service.settle inquiry.failed <$> service.lookup inquiry

variable {service : Service}

/-- A handler that looks one thing up answers with what it makes of that, or with the failure. -/
lemma answer_consult {α : Type} (look : Store → Except Failure α)
    (handle : α → Except ApiError Body) :
    answer (service.consult look >>= handle) =
      service.settle (fun failure => .ofError (.ofFailure failure))
        fun store => (answer ∘ handle) <$> look store := by
  unfold consult settle Session.read
  cases service.session.isOpen with
  | false => rfl
  | true =>
    simp only [if_true]
    cases look service.session.store with
    | error failure => rfl
    | ok found => rfl

/-! ### The handlers -/

/-- The handler of the hot ranking reads the lists of ids and then replies. -/
lemma hot_eq (fields : HotFields) :
    answer <$> service.hot fields =
      match readSelections fields.releases fields.components with
      | .error error => .ok (.ofError error)
      | .ok (releases, components) => service.reply
          (.hot (fields.history.getD "daily") releases components fields.since fields.limit) := by
  change answer <$> (match readSelections fields.releases fields.components with
    | .error error => _
    | .ok (releases, components) => _) = _
  cases readSelections fields.releases fields.components with
  | error error => rfl
  | ok selections =>
    obtain ⟨releases, components⟩ := selections
    unfold reply lookup
    dsimp only
    cases service.cutoff fields.since with
    | error failure => rfl
    | ok cutoff => exact congrArg Except.ok (answer_consult _ _)

/-- So does the handler of the long-term ranking. -/
lemma longTerm_eq (fields : LongTermFields) :
    Except.ok (answer (service.longTerm fields)) =
      match readSelections fields.releases fields.components with
      | .error error => .ok (.ofError error)
      | .ok (releases, components) => service.reply
          (.longTerm (fields.history.getD "monthly") releases components fields.limit) := by
  unfold longTerm readSelections
  cases releaseSelection fields.releases with
  | error error => rfl
  | ok releases =>
    cases componentSelection fields.components with
    | error error => rfl
    | ok components => exact congrArg Except.ok (answer_consult _ _)

/-- The handler of a single problem replies. -/
lemma problem_eq (id : Int) :
    Except.ok (answer (service.problem id)) = service.reply (.problem id) := by
  unfold problem
  rw [answer_consult]
  refine congrArg Except.ok (congrArg (service.settle _) (funext fun store => ?_))
  refine congrArg (· <$> store.getProblem? id) (funext fun found => ?_)
  cases found with
  | none => rfl
  | some problem => rfl

/-- So does the handler of releases. -/
lemma releases_eq (fields : OpSysFields) :
    Except.ok (answer (service.releases fields))
      = service.reply (.releases fields.opsys fields.version) :=
  congrArg Except.ok (answer_consult _ _)

/-- And so does the handler of totals, which looks up the two parts of its answer. -/
lemma componentStats_eq (fields : OpSysFields) :
    Except.ok (answer (service.componentStats fields))
      = service.reply (.componentStats fields.opsys fields.version
          (.ofToken (fields.history.getD "monthly"))) := by
  unfold componentStats
  dsimp only
  rw [answer_consult]
  refine congrArg Except.ok (congrArg (service.settle _) (funext fun store => ?_))
  exact (map_bind _ _ _).trans (bind_congr fun total => map_bind _ _ _)

/-- A GET request is refused, or it is replied to. -/
lemma get_eq (route : Route) (query : List UInt8) :
    service.get route query =
      match route.read query with
      | .error refused => .ok refused
      | .ok inquiry => service.reply inquiry := by
  unfold get Route.read
  dsimp only
  cases route with
  | health =>
    unfold reply lookup settle health Session.read
    cases service.session.isOpen <;> rfl
  | hot =>
    cases HotFields.ofForm? (formFields query) with
    | none => rfl
    | some fields =>
      dsimp only
      rw [hot_eq]
      unfold Inquiry.ofSelections
      cases readSelections fields.releases fields.components <;> rfl
  | longTerm =>
    cases LongTermFields.ofForm? (formFields query) with
    | none => rfl
    | some fields =>
      dsimp only
      rw [longTerm_eq]
      unfold Inquiry.ofSelections
      cases readSelections fields.releases fields.components <;> rfl
  | problem segment =>
    dsimp only
    cases (Utf8.decode? (percentDecode segment)).bind Numeral.int64? with
    | none => rfl
    | some id => exact problem_eq id
  | releases =>
    cases OpSysFields.ofForm? (formFields query) with
    | none => rfl
    | some fields => exact releases_eq fields
  | componentStats =>
    cases OpSysFields.ofForm? (formFields query) with
    | none => rfl
    | some fields => exact componentStats_eq fields

/-- A request is refused by an answer that does not depend on the service, or it makes an inquiry
that the service replies to. -/
theorem respond_eq (service : Service) (request : Request) :
    service.respond request =
      match request.read with
      | .error refused => .ok (request.trim refused)
      | .ok inquiry => request.trim <$> service.reply inquiry := by
  unfold respond Request.read
  dsimp only
  cases Route.ofPath? request.pathAndQuery.1 with
  | none => exact congrArg Except.ok (ite_self _).symm
  | some route =>
    dsimp only
    rw [get_eq]
    by_cases isGet : request.method = "GET"
    · rw [if_pos isGet, if_pos (.inl isGet), Request.trim_of_get isGet]
      cases route.read request.pathAndQuery.2 with
      | error refused => rfl
      | ok inquiry => exact (id_map _).symm
    · by_cases isHead : request.method = "HEAD"
      · rw [if_neg isGet, if_pos isHead, if_pos (.inr isHead), Request.trim_of_head isHead]
        cases route.read request.pathAndQuery.2 with
        | error refused => rfl
        | ok inquiry => exact bind_pure_comp _ _
      · rw [if_neg isGet, if_neg isHead, if_neg (not_or.2 ⟨isGet, isHead⟩)]
        exact congrArg Except.ok (if_neg isHead).symm

/-- What refuses a request is answered by every service. -/
lemma respond_of_refused {request : Request} {refused : Response}
    (read : request.read = .error refused) (service : Service) :
    service.respond request = .ok (request.trim refused) := by
  rw [respond_eq, read]

/-- A request that makes an inquiry is answered with the reply to it. -/
lemma respond_of_inquiry {request : Request} {inquiry : Inquiry}
    (read : request.read = .ok inquiry) (service : Service) :
    service.respond request = request.trim <$> service.reply inquiry := by
  rw [respond_eq, read]

end Service

end CrashTriage
