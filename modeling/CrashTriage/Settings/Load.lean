import CrashTriage.Settings.Basic
import CrashTriage.Settings.Layers
import CrashTriage.Toml.Document

/-!
# Loading settings

Settings are read from the layers of a configuration file and the environment. A section is a
table of fields, or a list of them in their order. Fields with a default may be missing; the
section of rankings may be missing as a whole.
-/

namespace CrashTriage

namespace Settings

/-- Why settings cannot be loaded. -/
inductive LoadFault where
  /-- The file is not a document. -/
  | unreadable
  /-- A path leads to a place that no list has. This is no fault that is reported: the loading is
  broken off. -/
  | unplaceable
  /-- A field is missing or has a value that it cannot have. -/
  | unusable
deriving DecidableEq

/-- Whether a value may be a section. -/
def isSection : Value → Bool
  | .table _ | .list _ => true
  | _ => false

/-- The value of a field in a section, by its name or its place. -/
def fieldOf (part : Value) (place : Nat) (name : String) : Option Value :=
  match part with
  | .table entries => entries.lookup name
  | .list items => items[place]?
  | _ => none

/-- A field as its reader reads it, and the default when it is missing. -/
def readField {α : Type} (read : Value → Option α) (default : Option α) (field : Option Value) :
    Option α :=
  match field with
  | none => default
  | some value => read value

/-- The settings of the server in a section. -/
def readServer? (part : Value) : Option ServerSettings := do
  let host ← readField Value.toText? none (fieldOf part 0 "host")
  let port ← readField Value.toPort? none (fieldOf part 1 "port")
  pure { host, port }

/-- The settings of the store in a section. -/
def readDatabase? (part : Value) : Option DatabaseSettings := do
  let path ← readField Value.toText? none (fieldOf part 0 "path")
  let poolSize ← readField Value.toNat? (some 4) (fieldOf part 1 "pool_size")
  pure { path, poolSize }

/-- The settings of rankings in a section. -/
def readRanking? (part : Value) : Option RankingSettings := do
  let standard : RankingSettings := {}
  let hotWindowDays ←
    readField Value.toInt? (some standard.hotWindowDays) (fieldOf part 0 "hot_window_days")
  let defaultLimit ←
    readField Value.toNat? (some standard.defaultLimit) (fieldOf part 1 "default_limit")
  let maxLimit ← readField Value.toNat? (some standard.maxLimit) (fieldOf part 2 "max_limit")
  pure { hotWindowDays, defaultLimit, maxLimit }

/-- A section as its reader reads it. -/
def readSection {α : Type} (read : Value → Option α) (part : Value) : Option α :=
  if isSection part then read part else none

/-- The settings that a whole denotes. -/
def ofValue? (whole : Value) : Option Settings := do
  let server ← readField (readSection readServer?) none (fieldOf whole 0 "server")
  let database ← readField (readSection readDatabase?) none (fieldOf whole 1 "database")
  let ranking ← readField (readSection readRanking?) (some {}) (fieldOf whole 2 "ranking")
  pure { server, database, ranking }

/-- The settings that a parsed file, if there is one, and an environment give when entries and
variables are laid in the order of these lists. -/
def ofLayers (file : Option Value) (environment : List (String × String)) :
    Except LoadFault Settings :=
  let assignments := (file.map fileAssignments).getD [] ++ environmentAssignments environment
  match layered assignments with
  | none => .error .unplaceable
  | some whole =>
    match ofValue? whole with
    | none => .error .unusable
    | some settings => .ok settings

/-- Loads settings from the contents of a file, if there is one, and an environment, in the order in
which things are written there. A file that is not a document is a fault whatever the environment
says. -/
def load (file : Option String) (environment : List (String × String)) :
    Except LoadFault Settings :=
  match file with
  | none => ofLayers none environment
  | some file =>
    match Toml.parse? file with
    | none => .error .unreadable
    | some whole => ofLayers (some whole) environment

end Settings

end CrashTriage
