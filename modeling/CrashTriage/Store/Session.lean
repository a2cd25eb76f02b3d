import CrashTriage.Store.Command

/-!
# Sessions

A session works on a store as long as its connection pool is open.
-/

namespace CrashTriage

/-- A store and whether the pool of connections to it is open. -/
structure Session where
  store : Store
  isOpen : Bool := true

namespace Session

/-- Reads the store. -/
def read {α : Type} (session : Session) (lookup : Store → Except Failure α) :
    Except Failure α :=
  if session.isOpen then lookup session.store else .error .poolClosed

/-- Carries a command out and gives the session after it. -/
def perform (session : Session) (command : Command) : Except Failure Reply × Session :=
  if session.isOpen then
    let (outcome, store) := session.store.step command
    (outcome, { session with store := store })
  else (.error .poolClosed, session)

/-- The session after its pool is closed. -/
def close (session : Session) : Session := { session with isOpen := false }

end Session

end CrashTriage
