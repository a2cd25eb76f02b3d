import CrashTriage.Http.Service

/-!
# Routes

Requests by path and method. Paths are exact; the last segment of a problem's path is its id,
percent-encoded at will. A HEAD request is answered like a GET request, without the body.
-/

namespace CrashTriage

/-- A request: its method and its target, which is a path and a query. -/
structure Request where
  method : String := "GET"
  target : String
deriving DecidableEq

/-- What the paths of the service lead to. -/
inductive Route where
  | health
  | hot
  | longTerm
  | problem (segment : List UInt8)
  | releases
  | componentStats
deriving DecidableEq

/-- The bytes of a text. -/
def bytesOf (text : String) : List UInt8 := text.toUTF8.toList

/-- The path of a problem, up to its id. -/
def problemPath : List UInt8 := bytesOf "/v1/problems/"

/-- What a path leads to. -/
def Route.ofPath? (path : List UInt8) : Option Route :=
  if path = bytesOf "/health" then some .health
  else if path = bytesOf "/v1/problems/hot" then some .hot
  else if path = bytesOf "/v1/problems/longterm" then some .longTerm
  else if path = bytesOf "/v1/releases" then some .releases
  else if path = bytesOf "/v1/components/stats" then some .componentStats
  else if problemPath.isPrefixOf path then
    let segment := path.drop problemPath.length
    if segment.isEmpty ∨ 0x2f ∈ segment then none else some (.problem segment)
  else none

/-- The path and the query of a target; a fragment does not count. -/
def Request.pathAndQuery (request : Request) : List UInt8 × List UInt8 :=
  splitFirst 0x3f (splitFirst 0x23 (bytesOf request.target)).1

namespace Service

/-- The answer that a handler's result becomes. -/
def answer : Except ApiError Body → Response
  | .ok body => .ok body
  | .error error => .ofError error

/-- The answer to a GET request on a route. -/
def get (service : Service) (route : Route) (query : List UInt8) : Except Failure Response :=
  let fields := formFields query
  match route with
  | .health => .ok (.ok service.health)
  | .hot =>
    match HotFields.ofForm? fields with
    | none => .ok .badRequest
    | some fields => answer <$> service.hot fields
  | .longTerm =>
    match LongTermFields.ofForm? fields with
    | none => .ok .badRequest
    | some fields => .ok (answer (service.longTerm fields))
  | .problem segment =>
    match (Utf8.decode? (percentDecode segment)).bind Numeral.int64? with
    | none => .ok .badRequest
    | some id => .ok (answer (service.problem id))
  | .releases =>
    match OpSysFields.ofForm? fields with
    | none => .ok .badRequest
    | some fields => .ok (answer (service.releases fields))
  | .componentStats =>
    match OpSysFields.ofForm? fields with
    | none => .ok .badRequest
    | some fields => .ok (answer (service.componentStats fields))

/-- The answer to a request. There is none when the cutoff that the settings give for the hot
ranking leaves the calendar's range. -/
def respond (service : Service) (request : Request) : Except Failure Response :=
  let (path, query) := request.pathAndQuery
  match Route.ofPath? path with
  | none => .ok .notFound
  | some route =>
    if request.method = "GET" then service.get route query
    else if request.method = "HEAD" then do
      let response ← service.get route query
      pure { response with body := none }
    else .ok .methodNotAllowed

end Service

end CrashTriage
