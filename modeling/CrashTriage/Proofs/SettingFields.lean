import CrashTriage.Settings.Load
import Mathlib.Tactic.Lemma

/-!
# The fields of the settings

The settings have seven fields in three sections. A field is known by the keys of its section and of
itself, and by its place where the section is a list; it has a reader and perhaps a standard value.
Loading settings from a whole means to read each field by itself: the settings have a value exactly
when each section that is there can be one and each field is read from what the whole holds for it.
-/

namespace CrashTriage.Settings

/-- A field of the settings. -/
inductive Field where
  | host
  | port
  | path
  | poolSize
  | hotWindowDays
  | defaultLimit
  | maxLimit
deriving DecidableEq

namespace Field

/-- The fields, one after the other. -/
def all : List Field :=
  [.host, .port, .path, .poolSize, .hotWindowDays, .defaultLimit, .maxLimit]

lemma mem_all (field : Field) : field ∈ all := by
  cases field <;> decide

instance {p : Field → Prop} [DecidablePred p] : Decidable (∀ field, p field) :=
  decidable_of_iff (∀ field ∈ all, p field)
    ⟨fun each field => each field (mem_all field), fun each field _ => each field⟩

/-- The key of the field's section. -/
def sectionKey : Field → String
  | .host | .port => "server"
  | .path | .poolSize => "database"
  | .hotWindowDays | .defaultLimit | .maxLimit => "ranking"

/-- The key of the field in its section. -/
def key : Field → String
  | .host => "host"
  | .port => "port"
  | .path => "path"
  | .poolSize => "pool_size"
  | .hotWindowDays => "hot_window_days"
  | .defaultLimit => "default_limit"
  | .maxLimit => "max_limit"

/-- No two fields have the same key. -/
lemma key_injective {first second : Field} (same : first.key = second.key) : first = second := by
  cases first <;> cases second <;> simp [key] at same ⊢

/-- The place of the field in a section that is a list. -/
def place : Field → Nat
  | .host | .path | .hotWindowDays => 0
  | .port | .poolSize | .defaultLimit => 1
  | .maxLimit => 2

/-- What the values of the field are. -/
def Kind : Field → Type
  | .host | .path => String
  | .port | .poolSize | .defaultLimit | .maxLimit => Nat
  | .hotWindowDays => Int

/-- How the field is read. -/
def read : (field : Field) → Value → Option field.Kind
  | .host | .path => Value.toText?
  | .port => Value.toPort?
  | .poolSize | .defaultLimit | .maxLimit => Value.toNat?
  | .hotWindowDays => Value.toInt?

/-- The value of the field when nothing else gives one. -/
def standard : (field : Field) → Option field.Kind
  | .host | .port | .path => none
  | .poolSize => some (4 : Nat)
  | .hotWindowDays => some (14 : Int)
  | .defaultLimit => some (50 : Nat)
  | .maxLimit => some (500 : Nat)

/-- The field of settings. -/
def get : (field : Field) → Settings → field.Kind
  | .host => fun settings => settings.server.host
  | .port => fun settings => settings.server.port
  | .path => fun settings => settings.database.path
  | .poolSize => fun settings => settings.database.poolSize
  | .hotWindowDays => fun settings => settings.ranking.hotWindowDays
  | .defaultLimit => fun settings => settings.ranking.defaultLimit
  | .maxLimit => fun settings => settings.ranking.maxLimit

/-- The section of the field in a whole. -/
def sectionIn (field : Field) (whole : Value) : Option Value :=
  whole.entries.lookup field.sectionKey

/-- What a section holds for the field. -/
def inSection (field : Field) (part : Value) : Option Value :=
  fieldOf part field.place field.key

/-- What a whole holds for the field. -/
def find (field : Field) (whole : Value) : Option Value :=
  (field.sectionIn whole).bind field.inSection

/-- The value of the field that is read from what there is for it, or else the standard one. -/
def readOr (field : Field) (found : Option Value) : Option field.Kind :=
  readField field.read field.standard found

/-- What is read for a field depends on what its reader makes of what was found. -/
lemma readOr_congr {field : Field} {found other : Option Value}
    (same : found.map field.read = other.map field.read) :
    field.readOr found = field.readOr other := by
  cases found with
  | none =>
    cases other with
    | none => rfl
    | some => cases same
  | some =>
    cases other with
    | none => cases same
    | some => exact Option.some.inj same

end Field

/-! ### Reading the fields one by one -/

section
variable {part : Value}

lemma readServer?_eq_some_iff {server : ServerSettings} :
    readServer? part = some server ↔
      Field.host.readOr (Field.host.inSection part) = some server.host ∧
        Field.port.readOr (Field.port.inSection part) = some server.port := by
  constructor
  · intro read
    obtain ⟨host, first, read⟩ := Option.bind_eq_some_iff.1 read
    obtain ⟨port, second, read⟩ := Option.bind_eq_some_iff.1 read
    obtain rfl := Option.some.inj read
    exact ⟨first, second⟩
  · rintro ⟨first, second⟩
    exact Option.bind_eq_some_iff.2 ⟨_, first, Option.bind_eq_some_iff.2 ⟨_, second, rfl⟩⟩

lemma readDatabase?_eq_some_iff {database : DatabaseSettings} :
    readDatabase? part = some database ↔
      Field.path.readOr (Field.path.inSection part) = some database.path ∧
        Field.poolSize.readOr (Field.poolSize.inSection part) = some database.poolSize := by
  constructor
  · intro read
    obtain ⟨path, first, read⟩ := Option.bind_eq_some_iff.1 read
    obtain ⟨poolSize, second, read⟩ := Option.bind_eq_some_iff.1 read
    obtain rfl := Option.some.inj read
    exact ⟨first, second⟩
  · rintro ⟨first, second⟩
    exact Option.bind_eq_some_iff.2 ⟨_, first, Option.bind_eq_some_iff.2 ⟨_, second, rfl⟩⟩

lemma readRanking?_eq_some_iff {ranking : RankingSettings} :
    readRanking? part = some ranking ↔
      Field.hotWindowDays.readOr (Field.hotWindowDays.inSection part)
          = some ranking.hotWindowDays ∧
        Field.defaultLimit.readOr (Field.defaultLimit.inSection part)
          = some ranking.defaultLimit ∧
        Field.maxLimit.readOr (Field.maxLimit.inSection part) = some ranking.maxLimit := by
  constructor
  · intro read
    obtain ⟨hotWindowDays, first, read⟩ := Option.bind_eq_some_iff.1 read
    obtain ⟨defaultLimit, second, read⟩ := Option.bind_eq_some_iff.1 read
    obtain ⟨maxLimit, third, read⟩ := Option.bind_eq_some_iff.1 read
    obtain rfl := Option.some.inj read
    exact ⟨first, second, third⟩
  · rintro ⟨first, second, third⟩
    exact Option.bind_eq_some_iff.2 ⟨_, first, Option.bind_eq_some_iff.2 ⟨_, second,
      Option.bind_eq_some_iff.2 ⟨_, third, rfl⟩⟩⟩

/-- A section is read when it may be one. -/
lemma readSection_eq_some_iff {α : Type} {read : Value → Option α} {a : α} :
    readSection read part = some a ↔ isSection part = true ∧ read part = some a := by
  unfold readSection
  split <;> simp_all

/-- Whether what a whole holds for the section of a field may be a section. -/
def Field.HasSection (field : Field) (whole : Value) : Prop :=
  ∀ part, field.sectionIn whole = some part → isSection part = true

lemma readField_server_eq_some_iff (whole : Value) {server : ServerSettings} :
    readField (readSection readServer?) none (Field.host.sectionIn whole) = some server ↔
      Field.host.HasSection whole ∧
        Field.host.readOr (Field.host.find whole) = some server.host ∧
        Field.port.readOr (Field.port.find whole) = some server.port := by
  have same : Field.port.find whole = (Field.host.sectionIn whole).bind Field.port.inSection := rfl
  rw [Field.find, same, Field.HasSection]
  cases Field.host.sectionIn whole with
  | none => exact ⟨nofun, fun read => nomatch read.2.1⟩
  | some part =>
    rw [readField, readSection_eq_some_iff, readServer?_eq_some_iff]
    simp

lemma readField_database_eq_some_iff (whole : Value) {database : DatabaseSettings} :
    readField (readSection readDatabase?) none (Field.path.sectionIn whole) = some database ↔
      Field.path.HasSection whole ∧
        Field.path.readOr (Field.path.find whole) = some database.path ∧
        Field.poolSize.readOr (Field.poolSize.find whole) = some database.poolSize := by
  have same : Field.poolSize.find whole
      = (Field.path.sectionIn whole).bind Field.poolSize.inSection := rfl
  rw [Field.find, same, Field.HasSection]
  cases Field.path.sectionIn whole with
  | none => exact ⟨nofun, fun read => nomatch read.2.1⟩
  | some part =>
    rw [readField, readSection_eq_some_iff, readDatabase?_eq_some_iff]
    simp

/-- The section of rankings may be missing: then each of its fields has its standard value. -/
lemma readField_ranking_eq_some_iff (whole : Value) {ranking : RankingSettings} :
    readField (readSection readRanking?) (some {}) (Field.maxLimit.sectionIn whole)
        = some ranking ↔
      Field.maxLimit.HasSection whole ∧
        Field.hotWindowDays.readOr (Field.hotWindowDays.find whole)
          = some ranking.hotWindowDays ∧
        Field.defaultLimit.readOr (Field.defaultLimit.find whole) = some ranking.defaultLimit ∧
        Field.maxLimit.readOr (Field.maxLimit.find whole) = some ranking.maxLimit := by
  have first : Field.hotWindowDays.find whole
      = (Field.maxLimit.sectionIn whole).bind Field.hotWindowDays.inSection := rfl
  have second : Field.defaultLimit.find whole
      = (Field.maxLimit.sectionIn whole).bind Field.defaultLimit.inSection := rfl
  rw [first, second, Field.find, Field.HasSection]
  cases Field.maxLimit.sectionIn whole with
  | none =>
    constructor
    · rintro ⟨⟩
      exact ⟨nofun, rfl, rfl, rfl⟩
    · rintro ⟨-, first, second, third⟩
      obtain ⟨hotWindowDays, defaultLimit, maxLimit⟩ := ranking
      obtain rfl : (14 : Int) = hotWindowDays := Option.some.inj first
      obtain rfl : 50 = defaultLimit := Option.some.inj second
      obtain rfl : 500 = maxLimit := Option.some.inj third
      rfl
  | some part =>
    rw [readField, readSection_eq_some_iff, readRanking?_eq_some_iff]
    simp

/-- A table denotes settings when each of its sections may be one and each field is read. -/
lemma ofValue?_eq_some_iff {entries : List (String × Value)} {settings : Settings} :
    ofValue? (.table entries) = some settings ↔
      ∀ field : Field, field.HasSection (.table entries) ∧
        field.readOr (field.find (.table entries)) = some (field.get settings) := by
  constructor
  · intro read
    obtain ⟨server, first, read⟩ := Option.bind_eq_some_iff.1 read
    obtain ⟨database, second, read⟩ := Option.bind_eq_some_iff.1 read
    obtain ⟨ranking, third, read⟩ := Option.bind_eq_some_iff.1 read
    obtain rfl := Option.some.inj read
    obtain ⟨inServer, host, port⟩ :=
      (readField_server_eq_some_iff (.table entries)).1 first
    obtain ⟨inDatabase, path, poolSize⟩ :=
      (readField_database_eq_some_iff (.table entries)).1 second
    obtain ⟨inRanking, hotWindowDays, defaultLimit, maxLimit⟩ :=
      (readField_ranking_eq_some_iff (.table entries)).1 third
    intro field
    cases field with
    | host => exact ⟨inServer, host⟩
    | port => exact ⟨inServer, port⟩
    | path => exact ⟨inDatabase, path⟩
    | poolSize => exact ⟨inDatabase, poolSize⟩
    | hotWindowDays => exact ⟨inRanking, hotWindowDays⟩
    | defaultLimit => exact ⟨inRanking, defaultLimit⟩
    | maxLimit => exact ⟨inRanking, maxLimit⟩
  · intro fields
    have server := (readField_server_eq_some_iff (.table entries)).2
      ⟨(fields .host).1, (fields .host).2, (fields .port).2⟩
    have database := (readField_database_eq_some_iff (.table entries)).2
      ⟨(fields .path).1, (fields .path).2, (fields .poolSize).2⟩
    have ranking := (readField_ranking_eq_some_iff (.table entries)).2 ⟨(fields .maxLimit).1,
      (fields .hotWindowDays).2, (fields .defaultLimit).2, (fields .maxLimit).2⟩
    exact Option.bind_eq_some_iff.2 ⟨settings.server, server, Option.bind_eq_some_iff.2
      ⟨settings.database, database, Option.bind_eq_some_iff.2 ⟨settings.ranking, ranking, rfl⟩⟩⟩

/-- Tables denote the same settings when the same sections of both may be ones and the same is read
for each field. -/
lemma ofValue?_congr {entries entries' : List (String × Value)}
    (sections : ∀ field : Field,
      field.HasSection (.table entries) ↔ field.HasSection (.table entries'))
    (fields : ∀ field : Field, (field.find (.table entries)).map field.read
      = (field.find (.table entries')).map field.read) :
    ofValue? (.table entries) = ofValue? (.table entries') := by
  apply Option.ext
  intro settings
  rw [ofValue?_eq_some_iff, ofValue?_eq_some_iff]
  refine forall_congr' fun field => and_congr (sections field) ?_
  rw [Field.readOr_congr (fields field)]

end

end CrashTriage.Settings
