import CrashTriage.Store.Migrate
import CrashTriage.Store.Remove

/-!
# Commands and runs

Every change of the store is a command. A run carries commands out one after the other; one that
fails is followed by the next, on the store as the failure left it.
-/

namespace CrashTriage

/-- A change of the store that can be asked for. -/
inductive Command where
  | insertOpSys (name : String)
  | insertRelease (opsys : Int) (version : String)
  | insertComponent (opsys : Int) (name : String)
  | insertProblem (first last : Date)
  | insertReport (problem : Option Int) (component : Int) (first : Date)
  | linkComponent (problem component order : Int)
  | linkRelease (problem release : Int) (fix : Option String)
  | record (report release : Int) (date : Date) (count : Int)
  | delete (table : TableName) (id : Int)
  | drop (table : TableName)
  | migrate
deriving DecidableEq

/-- The answer to a command that succeeds. -/
inductive Reply where
  | done
  /-- The id of the row that was entered. -/
  | entered (id : Int)
  /-- The number of rows that were removed. -/
  | removed (count : Nat)
deriving DecidableEq

namespace Command

/-- Carries a command out. -/
def perform : Command → StoreM Reply
  | .insertOpSys name => Reply.entered <$> Store.insertOpSys name
  | .insertRelease opsys version => Reply.entered <$> Store.insertRelease opsys version
  | .insertComponent opsys name => Reply.entered <$> Store.insertComponent opsys name
  | .insertProblem first last => Reply.entered <$> Store.insertProblem first last
  | .insertReport problem component first =>
    Reply.entered <$> Store.insertReport problem component first
  | .linkComponent problem component order =>
    (fun _ => Reply.done) <$> Store.linkComponent problem component order
  | .linkRelease problem release fix =>
    (fun _ => Reply.done) <$> Store.linkRelease problem release fix
  | .record report release date count =>
    (fun _ => Reply.done) <$> Store.record report release date count
  | .delete table id => Reply.removed <$> Store.delete table id
  | .drop table => (fun _ => Reply.done) <$> Store.drop table
  | .migrate => (fun _ => Reply.done) <$> Store.migrate

end Command

namespace Store

/-- The outcome of a command, and the store after it. -/
def step (store : Store) (command : Command) : Except Failure Reply × Store :=
  command.perform store

/-- The store after a run of commands. -/
def run (store : Store) (commands : List Command) : Store :=
  commands.foldl (fun store command => (store.step command).2) store

@[simp] theorem run_nil (store : Store) : store.run [] = store := rfl

@[simp] theorem run_cons (store : Store) (command : Command) (rest : List Command) :
    store.run (command :: rest) = (store.step command).2.run rest := rfl

end Store

end CrashTriage
