import CrashTriage.Settings.Load

/-!
# The order of entries and variables

The tables of a document and the variables of an environment are kept in hash maps, which give what
they hold in any order, another one at each run. So one file and one environment need not always
come to the same: what loading them may come to is what the layers come to in any such order. Of
variables whose names differ in case only the map keeps one, which comes to the same as to lay it
right after the others. Main statement: what loading in the written order comes to is among it.
-/

namespace CrashTriage.Settings

/-- Entries in another order, with those of the tables among them in another order as well. A list
is laid as it is, and the order of a table in it is never followed. -/
inductive Reordered : List (String × Value) → List (String × Value) → Prop
  | nil : Reordered [] []
  | cons (entry : String × Value) {first second : List (String × Value)}
      (order : Reordered first second) : Reordered (entry :: first) (entry :: second)
  | inside (key : String) (rest : List (String × Value)) {first second : List (String × Value)}
      (order : Reordered first second) :
      Reordered ((key, .table first) :: rest) ((key, .table second) :: rest)
  | swap (one two : String × Value) (rest : List (String × Value)) :
      Reordered (one :: two :: rest) (two :: one :: rest)
  | trans {first second third : List (String × Value)} (order : Reordered first second)
      (next : Reordered second third) : Reordered first third

namespace Reordered

variable {first second : List (String × Value)}

@[refl] theorem refl (entries : List (String × Value)) : Reordered entries entries := by
  induction entries with
  | nil => exact .nil
  | cons entry _ ih => exact .cons entry ih

theorem of_perm (order : first.Perm second) : Reordered first second := by
  induction order with
  | nil => exact .nil
  | cons entry _ ih => exact .cons entry ih
  | swap one two rest => exact .swap two one rest
  | trans _ _ ih ih' => exact ih.trans ih'

end Reordered

/-- Values that are the same but for the order of their tables. -/
inductive Value.SameButOrder : Value → Value → Prop
  | same (value : Value) : SameButOrder value value
  | table {first second : List (String × Value)} (order : Reordered first second) :
      SameButOrder (.table first) (.table second)

/-- What may be laid for a file, if there is one: the document that it is, in some order. -/
inductive LaidAs : Option String → Option Value → Prop
  | absent : LaidAs none none
  | document {text : String} {document laid : Value} (parsed : Toml.parse? text = some document)
      (order : document.SameButOrder laid) : LaidAs (some text) (some laid)

/-- What loading settings from the contents of a file, if there is one, and an environment may come
to. -/
inductive MayLoad : Option String → List (String × String) → Except LoadFault Settings → Prop
  | unreadable {text : String} (environment : List (String × String))
      (malformed : Toml.parse? text = none) :
      MayLoad (some text) environment (.error .unreadable)
  | laid {file : Option String} {laid : Option Value} (document : LaidAs file laid)
      {environment environment' : List (String × String)}
      (order : environment.Perm environment') :
      MayLoad file environment (ofLayers laid environment')

/-- The written order is one of those that there may be. -/
theorem mayLoad_load (file : Option String) (environment : List (String × String)) :
    MayLoad file environment (load file environment) := by
  cases file with
  | none => exact .laid .absent (.refl environment)
  | some text =>
    rw [load]
    cases parsed : Toml.parse? text with
    | none => exact .unreadable environment parsed
    | some document => exact .laid (.document parsed (.same document)) (.refl environment)

end CrashTriage.Settings
