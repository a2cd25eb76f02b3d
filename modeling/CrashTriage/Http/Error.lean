import CrashTriage.Store.Failure

/-!
# Errors of the service

What a handler answers when it cannot answer the request: its words for the log, its status, and
the words that the client sees. Clients are told what they did wrong, and nothing about the store.
-/

namespace CrashTriage

/-- Why a computation on a pooled connection gave no result. -/
inductive InteractionFault where
  | aborted
  | panicked
deriving DecidableEq

/-- Why a handler cannot answer a request. -/
inductive ApiError where
  | validation (message : String)
  | notFound (message : String)
  | database (failure : Failure)
  | pool (fault : InteractionFault)
  | internal (message : String)
deriving DecidableEq

namespace ApiError

/-- The words for the log. -/
def display : ApiError → String
  | .validation message => "validation error: " ++ message
  | .notFound message => "not found: " ++ message
  | .database failure => "database error: " ++ failure.message
  | .pool .aborted => "pool error: Aborted"
  | .pool .panicked => "pool error: Panic"
  | .internal message => "internal error: " ++ message

/-- The status of the answer. -/
def status : ApiError → Nat
  | .validation _ => 400
  | .notFound _ => 404
  | .database _ | .pool _ | .internal _ => 500

/-- The words that the client sees. -/
def publicMessage : ApiError → String
  | .validation message => message
  | .notFound message => message
  | .database _ | .pool _ | .internal _ => "internal server error"

/-- The error of a handler whose work on the store failed. -/
def ofFailure : Failure → ApiError
  | .dateOutOfRange => .pool .panicked
  | .poolClosed => .internal "pool error: Pool has been closed"
  | failure => .database failure

end ApiError

end CrashTriage
