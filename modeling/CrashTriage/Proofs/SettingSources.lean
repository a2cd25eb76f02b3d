import CrashTriage.Proofs.FileOrder
import Mathlib.Data.List.Permutation

/-!
# Where the settings come from

The environment is laid over the whole that the file builds up, and the settings are read from what
comes out. So each field of loaded settings comes from the variable of the environment that is for
it, else from the file, else it has its standard value. A section may also be written as a list, and
then the environment cannot set one of its fields and leave the others: the list gives way to a
table. Where the environment sets a field, it does not matter what the file gives for it. All this
holds in whichever order the file and the environment are laid, and for plain files and variables
that lead through keys only there is just one result.
-/

namespace CrashTriage.Settings

/-! ### What the layers build up -/

/-- The assignments that follow keep a table a table, as their paths begin with keys. -/
lemma table_of_foldlM {assignments : List Assignment}
    (keyed : ∀ layer ∈ assignments, ∃ name rest, layer.path = .key name :: rest)
    {entries : List (String × Value)} {whole : Value}
    (laid : assignments.foldlM lay (.table entries) = some whole) :
    ∃ entries, whole = .table entries := by
  induction assignments generalizing entries with
  | nil => exact ⟨entries, (Option.some.inj laid).symm⟩
  | cons layer rest ih =>
    obtain ⟨next, first, laid⟩ := Option.bind_eq_some_iff.1 laid
    obtain ⟨name, path, shape⟩ := keyed layer List.mem_cons_self
    rw [lay, shape] at first
    obtain ⟨value, -, rfl⟩ := Value.overlayAt_key_eq_some_iff.1 first
    exact ih (fun other member => keyed other (List.mem_cons_of_mem _ member)) laid

lemma keyed_fileAssignments (file : Value) :
    ∀ layer ∈ fileAssignments file, ∃ name rest, layer.path = .key name :: rest := by
  intro layer member
  obtain ⟨⟨key, value⟩, -, rfl⟩ := List.mem_map.1 member
  exact Path.exists_ofText_eq key.toList

lemma keyed_environmentAssignments (environment : List (String × String)) :
    ∀ layer ∈ environmentAssignments environment,
      ∃ name rest, layer.path = .key name :: rest := by
  intro layer member
  obtain ⟨⟨name, text⟩, -, made⟩ := List.mem_filterMap.1 member
  dsimp only at made
  split at made
  · obtain rfl := Option.some.inj made
    dsimp only
    exact Path.exists_ofText_eq _
  · cases made

lemma table_of_fileWhole? {file : Option Value} {whole : Value}
    (built : fileWhole? file = some whole) : ∃ entries, whole = .table entries := by
  cases file with
  | none =>
    have empty : some (.table []) = some whole := built
    exact ⟨[], (Option.some.inj empty).symm⟩
  | some document =>
    have laid : (fileAssignments document).foldlM lay (.table []) = some whole := built
    exact table_of_foldlM (keyed_fileAssignments document) laid

lemma table_of_environment {environment : List (String × String)} {whole after : Value}
    {entries : List (String × Value)} (shape : whole = .table entries)
    (laid : (environmentAssignments environment).foldlM lay whole = some after) :
    ∃ entries, after = .table entries := by
  subst shape
  exact table_of_foldlM (keyed_environmentAssignments environment) laid

/-- What a whole, if there is one, denotes. -/
def outcome (whole : Option Value) : Except LoadFault Settings :=
  match whole with
  | none => .error .unplaceable
  | some whole =>
    match ofValue? whole with
    | none => .error .unusable
    | some settings => .ok settings

/-- The environment is laid over the whole that the file builds up. -/
lemma ofLayers_eq (file : Option Value) (environment : List (String × String)) :
    ofLayers file environment =
      outcome ((fileWhole? file).bind
        fun whole => (environmentAssignments environment).foldlM lay whole) := by
  have laid : layered ((file.map fileAssignments).getD [] ++ environmentAssignments environment)
      = (fileWhole? file).bind
          fun whole => (environmentAssignments environment).foldlM lay whole :=
    List.foldlM_append ..
  unfold ofLayers
  dsimp only
  rw [laid]
  rfl

lemma outcome_eq_ok_iff {whole : Option Value} {settings : Settings} :
    outcome whole = .ok settings ↔
      ∃ found, whole = some found ∧ ofValue? found = some settings := by
  unfold outcome
  cases whole with
  | none => simp
  | some found => cases read : ofValue? found <;> simp [read]

/-- Settings that may be loaded come from layers in some order. -/
lemma MayLoad.exists_ofLayers_eq {file : Option String} {environment : List (String × String)}
    {settings : Settings} (may : MayLoad file environment (.ok settings)) :
    ∃ laid environment', LaidAs file laid ∧ environment.Perm environment' ∧
      ofLayers laid environment' = .ok settings := by
  generalize loaded : (.ok settings : Except LoadFault Settings) = result at may ⊢
  cases may with
  | unreadable => cases loaded
  | laid document order => exact ⟨_, _, document, order, rfl⟩

/-- What may be laid for a document is the document in some order. -/
lemma LaidAs.exists_eq {text : String} {document : Value} {laid : Option Value}
    (layer : LaidAs (some text) laid) (parsed : Toml.parse? text = some document) :
    ∃ value, laid = some value ∧ document.SameButOrder value := by
  cases layer with
  | document parsed' order =>
    rw [parsed, Option.some.injEq] at parsed'
    rw [parsed']
    exact ⟨_, rfl, order⟩

/-! ### Fields of loaded settings -/

namespace Field

/-- What the environment leaves of what the file holds for a field: a list that it enters is lost.
-/
def kept (field : Field) (file : Option Value) (environment : List (String × String)) :
    Option Value :=
  if field.isListed file && field.isEnteredBy environment then none else field.given file

/-- The value of a field comes from the environment if it sets the field, else from the file, and
else it is the standard value of the field. -/
inductive ComesFrom (field : Field) (file : Option Value) (environment : List (String × String))
    (value : field.Kind) : Prop
  | environment {text : String} (set : field.setTo environment = some text)
      (reads : field.read (environmentValue text) = some value)
  | file {found : Value} (unset : field.setTo environment = none)
      (given : field.kept file environment = some found) (reads : field.read found = some value)
  | standard (unset : field.setTo environment = none)
      (missing : field.kept file environment = none) (standard : field.standard = some value)

variable {field : Field} {file : Option Value} {environment : List (String × String)}

/-- The value is what is read from the first of these sources that there is. -/
lemma comesFrom_iff {value : field.Kind} :
    field.ComesFrom file environment value ↔
      field.readOr (((field.setTo environment).map environmentValue).or
        (field.kept file environment)) = some value := by
  constructor
  · intro source
    cases source with
    | environment set reads => rw [set]; exact reads
    | file unset given reads => rw [unset, given]; exact reads
    | standard unset missing standard => rw [unset, missing]; exact standard
  · intro reads
    cases set : field.setTo environment with
    | some text =>
      rw [set] at reads
      exact .environment set reads
    | none =>
      rw [set] at reads
      cases given : field.kept file environment with
      | some found =>
        rw [given] at reads
        exact .file set given reads
      | none =>
        rw [given] at reads
        exact .standard set given reads

/-- The order of the variables does not matter for what the environment leaves. -/
lemma kept_perm {environment' : List (String × String)} (order : environment.Perm environment') :
    field.kept file environment' = field.kept file environment := by
  unfold kept
  rw [isEnteredBy_perm order]

/-- The order of the variables does not matter for the source of a value. -/
lemma ComesFrom.of_perm {environment' : List (String × String)} {value : field.Kind}
    (source : field.ComesFrom file environment' value) (names : NamesFieldsOnce environment)
    (order : environment.Perm environment') : field.ComesFrom file environment value := by
  rw [comesFrom_iff] at source ⊢
  rwa [names.setTo_perm order, kept_perm order] at source

/-- Each field of settings that are loaded comes from one of its sources. -/
lemma comesFrom_of_ofLayers (names : NamesFieldsOnce environment) {settings : Settings}
    (loaded : ofLayers file environment = .ok settings) :
    field.ComesFrom file environment (field.get settings) := by
  rw [ofLayers_eq, outcome_eq_ok_iff] at loaded
  obtain ⟨after, laid, read⟩ := loaded
  obtain ⟨whole, built, laid⟩ := Option.bind_eq_some_iff.1 laid
  obtain ⟨_, shape⟩ := table_of_fileWhole? built
  obtain ⟨entries, rfl⟩ := table_of_environment shape laid
  have found := (ofValue?_eq_some_iff.1 read field).2
  rw [find_foldlM names laid] at found
  rwa [comesFrom_iff, kept, isListed, given, built, Option.any_some, Option.bind_some]

/-- A field that the environment sets comes to stand in a table, with the value of its variable. -/
lemma find_of_setTo (names : NamesFieldsOnce environment) {text : String}
    (set : field.setTo environment = some text) {whole after : Value}
    (laid : (environmentAssignments environment).foldlM lay whole = some after) :
    (∃ entries, field.sectionIn after = some (.table entries)) ∧
      field.find after = some (environmentValue text) := by
  constructor
  · rcases sectionIn_foldlM names laid with ⟨-, table⟩ | ⟨unentered, -⟩
    · exact table
    · rw [isEnteredBy_of_setTo set] at unentered
      cases unentered
  · rw [find_foldlM names laid, set]
    rfl

/-- A field without a standard value comes from the environment or from the file. -/
lemma ComesFrom.isSome {value : field.Kind} (source : field.ComesFrom file environment value)
    (required : field.standard = none) :
    (field.setTo environment).isSome ∨ (field.kept file environment).isSome := by
  cases source with
  | environment set _ => exact .inl (Option.isSome_of_eq_some set)
  | file _ given _ => exact .inr (Option.isSome_of_eq_some given)
  | standard _ _ standard =>
    rw [required] at standard
    cases standard

/-- A field that two environments set alike has one value under both, unless the file gives its
section as a list that just one of them enters. -/
lemma ComesFrom.eq_of_setTo_eq {other : List (String × String)} {value value' : field.Kind}
    (source : field.ComesFrom file environment value)
    (source' : field.ComesFrom file other value')
    (same : field.setTo other = field.setTo environment)
    (entered : field.isListed file = true →
      field.isEnteredBy other = field.isEnteredBy environment) : value' = value := by
  have kept : field.kept file other = field.kept file environment := by
    unfold Field.kept
    cases listed : field.isListed file with
    | true => rw [entered listed]
    | false => rfl
  rw [comesFrom_iff] at source source'
  rw [same, kept, source] at source'
  exact (Option.some.inj source').symm

end Field

/-! ### Two files under one environment -/

/-- Files that differ only in what they give for a field that the environment sets are loaded alike,
if keys of both lead to places that are there, or keys of neither do. -/
lemma ofLayers_eq_of_filesDiffer {environment : List (String × String)}
    (names : NamesFieldsOnce environment) {field : Field} {first second : Value}
    (set : (field.setTo environment).isSome) (differ : field.FilesDiffer first second)
    (places : (fileWhole? (some first)).isSome = (fileWhole? (some second)).isSome) :
    ofLayers (some first) environment = ofLayers (some second) environment := by
  obtain ⟨text, set⟩ := Option.isSome_iff_exists.1 set
  rw [ofLayers_eq, ofLayers_eq]
  cases built : fileWhole? (some first) with
  | none =>
    rw [built, Option.isSome_none, eq_comm, Option.isSome_eq_false_iff,
      Option.isNone_iff_eq_none] at places
    rw [places]
  | some whole =>
    rw [built, Option.isSome_some, eq_comm, Option.isSome_iff_exists] at places
    obtain ⟨whole', built'⟩ := places
    have agree : field.AgreeBut whole whole' :=
      (Field.AgreeBut.refl field (.table [])).foldlM_file differ built built'
    rw [built', Option.bind_some, Option.bind_some]
    rcases agree.foldlM_environment names with
      ⟨failed, failed'⟩ | ⟨after, after', laid, laid', agree⟩
    · rw [failed, failed']
    · obtain ⟨_, shape⟩ := table_of_fileWhole? built
      obtain ⟨_, shape'⟩ := table_of_fileWhole? built'
      obtain ⟨entries, rfl⟩ := table_of_environment shape laid
      obtain ⟨entries', rfl⟩ := table_of_environment shape' laid'
      obtain ⟨⟨_, here⟩, found⟩ := Field.find_of_setTo names set laid
      obtain ⟨⟨_, here'⟩, found'⟩ := Field.find_of_setTo names set laid'
      rw [laid, laid', outcome, outcome, agree.ofValue?_eq here here' (found.trans found'.symm)]

/-- Files are placed alike when, in matching orders, keys of both lead to places that are there, or
keys of neither do. -/
def Field.PlacedAlike (field : Field) (first second : Value) : Prop :=
  ∀ laid laid', first.SameButOrder laid → second.SameButOrder laid' → field.FilesDiffer laid laid' →
    (fileWhole? (some laid)).isSome = (fileWhole? (some laid')).isSome

lemma Field.PlacedAlike.symm {field : Field} {first second : Value}
    (places : field.PlacedAlike first second) : field.PlacedAlike second first :=
  fun laid laid' order order' differ => (places laid' laid order' order differ.symm).symm

/-- Files whose keys lead to no place of a list are placed alike. -/
lemma Field.FilesDiffer.placedAlike {field : Field} {first second : Value}
    (differ : field.FilesDiffer first second)
    (keys : ∀ key ∈ first.entries.map (·.1), (Path.ofText key.toList).hasKeysOnly = true) :
    field.PlacedAlike first second := by
  intro laid laid' order order' _
  obtain ⟨whole, built⟩ := exists_fileWhole?_eq fun key member =>
    keys key (order.entries.keys_perm.mem_iff.2 member)
  obtain ⟨whole', built'⟩ := exists_fileWhole?_eq fun key member => by
    rw [differ.keys_eq] at keys
    exact keys key (order'.entries.keys_perm.mem_iff.2 member)
  rw [built, built']
  rfl

/-- What may come of one of two files that differ only in what they give for a field that the
environment sets may come of the other one. -/
lemma MayLoad.of_filesDiffer {environment : List (String × String)}
    (names : NamesFieldsOnce environment) {field : Field} {first second : String}
    {document document' : Value} (set : (field.setTo environment).isSome)
    (parsed : Toml.parse? first = some document) (parsed' : Toml.parse? second = some document')
    (differ : field.FilesDiffer document document') (places : field.PlacedAlike document document')
    {result : Except LoadFault Settings} (may : MayLoad (some first) environment result) :
    MayLoad (some second) environment result := by
  cases may with
  | unreadable _ malformed =>
    rw [malformed] at parsed
    cases parsed
  | @laid _ _ laid _ environment' order =>
    cases laid with
    | @document _ found laid read order' =>
      obtain rfl : document = found := Option.some.inj (parsed.symm.trans read)
      obtain ⟨laid', order'', differ'⟩ := differ.exists_sameButOrder order'
      have set' : (field.setTo environment').isSome := by rwa [names.setTo_perm order]
      rw [ofLayers_eq_of_filesDiffer (names.perm order) set' differ'
        (places laid laid' order' order'' differ')]
      exact .laid (.document parsed' order'') order

/-! ### One result -/

/-- A file that is not there is laid as one that is empty. -/
lemma ofLayers_none (environment : List (String × String)) :
    ofLayers none environment = ofLayers (some (.table [])) environment := rfl

/-- A plain file under variables that lead through keys only comes to the same in each order. -/
lemma IsPlain.ofLayers_eq {document laid : Value} (plain : IsPlain document)
    (order : document.SameButOrder laid) {environment environment' : List (String × String)}
    (names : NamesFieldsOnce environment) (keys : HasKeysOnly environment)
    (order' : environment.Perm environment') :
    ofLayers (some laid) environment' = ofLayers (some document) environment := by
  have keys' : HasKeysOnly environment' := fun entry member =>
    keys entry (order'.mem_iff.2 member)
  rw [Settings.ofLayers_eq, Settings.ofLayers_eq, plain.fileWhole?_eq,
    (plain.of_sameButOrder order).fileWhole?_eq, Option.bind_some, Option.bind_some]
  obtain ⟨after, environmentLaid⟩ :=
    keys.exists_foldlM_eq (.table (Value.overlayEntries [] document.entries))
  obtain ⟨after', environmentLaid'⟩ :=
    keys'.exists_foldlM_eq (.table (Value.overlayEntries [] laid.entries))
  obtain ⟨entries, rfl⟩ := table_of_environment rfl environmentLaid
  obtain ⟨entries', rfl⟩ := table_of_environment rfl environmentLaid'
  rw [environmentLaid, environmentLaid', outcome, outcome,
    (plain.readAlike order).ofValue?_eq names order' environmentLaid environmentLaid']

/-- So there is one result, which is what comes out in the written order. -/
lemma MayLoad.eq_load {file : Option String} {environment : List (String × String)}
    (plain : ∀ document ∈ file.bind Toml.parse?, IsPlain document)
    (names : NamesFieldsOnce environment) (keys : HasKeysOnly environment)
    {result : Except LoadFault Settings} (may : MayLoad file environment result) :
    result = load file environment := by
  cases may with
  | unreadable _ malformed => rw [load, malformed]
  | laid laid order =>
    cases laid with
    | absent =>
      have empty : IsPlain (.table []) :=
        ⟨List.forall_mem_nil _, List.nodup_nil, List.forall_mem_nil _⟩
      rw [load, ofLayers_none, ofLayers_none]
      exact empty.ofLayers_eq (.same _) names keys order
    | document parsed order' =>
      rw [load, parsed]
      exact (plain _ parsed).ofLayers_eq order' names keys order

/-! ### Values that are found -/

namespace Value

mutual

/-- Whether two values are the same, if there are no fractions in them. -/
def agrees : Value → Value → Bool
  | .nothing, .nothing => true
  | .boolean b, .boolean c => b = c
  | .integer m, .integer n => m = n
  | .text s, .text t => s = t
  | .moment s, .moment t => s = t
  | .list items, .list others => itemsAgree items others
  | .table entries, .table others => entriesAgree entries others
  | _, _ => false

def itemsAgree : List Value → List Value → Bool
  | [], [] => true
  | one :: items, two :: others => agrees one two && itemsAgree items others
  | _, _ => false

def entriesAgree : List (String × Value) → List (String × Value) → Bool
  | [], [] => true
  | (key, one) :: entries, (key', two) :: others =>
    decide (key = key') && agrees one two && entriesAgree entries others
  | _, _ => false

end

mutual

lemma eq_of_agrees (first second : Value) (same : agrees first second = true) :
    first = second := by
  cases first with
  | list items =>
    cases second with
    | list others =>
      rw [agrees] at same
      rw [eq_of_itemsAgree items others same]
    | _ => simp [agrees] at same
  | table entries =>
    cases second with
    | table others =>
      rw [agrees] at same
      rw [eq_of_entriesAgree entries others same]
    | _ => simp [agrees] at same
  | _ => cases second <;> simp_all [agrees]

lemma eq_of_itemsAgree (items others : List Value) (same : itemsAgree items others = true) :
    items = others := by
  cases items with
  | nil => cases others <;> simp_all [itemsAgree]
  | cons one items =>
    cases others with
    | nil => simp [itemsAgree] at same
    | cons two others =>
      rw [itemsAgree, Bool.and_eq_true] at same
      rw [eq_of_agrees one two same.1, eq_of_itemsAgree items others same.2]

lemma eq_of_entriesAgree (entries others : List (String × Value))
    (same : entriesAgree entries others = true) : entries = others := by
  match entries, others with
  | [], [] => rfl
  | (key, one) :: entries, (key', two) :: others =>
    simp only [entriesAgree, Bool.and_eq_true, decide_eq_true_eq] at same
    rw [same.1.1, eq_of_agrees one two same.1.2, eq_of_entriesAgree entries others same.2]

end

end Value

/-- What was found is some value if it agrees with it. -/
lemma eq_some_of_agrees {found : Option Value} {value : Value}
    (same : found.any value.agrees = true) : found = some value := by
  cases found with
  | none => cases same
  | some other => rw [Value.eq_of_agrees value other same]

/-! ### Loaded settings -/

/-- What settings that are loaded from a file, laid in some order, and an environment are like. -/
structure FromLayers (laid : Option Value) (environment : List (String × String))
    (settings : Settings) : Prop where
  sources : ∀ field : Field, field.ComesFrom laid environment (field.get settings)
  required : ∀ field : Field, field.standard = none →
    (field.setTo environment).isSome ∨ (field.kept laid environment).isSome
  /-- What another environment sets elsewhere does not change a field, but for a list. -/
  untouched : ∀ other settings', NamesFieldsOnce other → ofLayers laid other = .ok settings' →
    ∀ field : Field, field.setTo other = field.setTo environment →
      (field.isListed laid = true → field.isEnteredBy other = field.isEnteredBy environment) →
      field.get settings' = field.get settings

lemma fromLayers_of_ofLayers {laid : Option Value}
    {environment environment' : List (String × String)} (names : NamesFieldsOnce environment)
    (order : environment.Perm environment') {settings : Settings}
    (loaded : ofLayers laid environment' = .ok settings) :
    FromLayers laid environment settings := by
  have sources (field : Field) : field.ComesFrom laid environment (field.get settings) :=
    (Field.comesFrom_of_ofLayers (names.perm order) loaded).of_perm names order
  exact
    { sources
      required := fun field missing => (sources field).isSome missing
      untouched := fun _ _ names' loaded' field same entered =>
        (sources field).eq_of_setTo_eq (Field.comesFrom_of_ofLayers names' loaded') same entered }

/-- Under an environment whose variables name fields, each at most once, or lead past all of them,
in whichever order the file and the environment are laid:

* each field of loaded settings comes from its variable, else from the file, else it has its
  standard value, and only a list is lost when the environment sets something in its section;
* two files that differ only in what they give for a field that the environment sets may come to the
  same, failures included, if they are placed alike, which files are whose keys lead to no place of
  a list;
* a field is named by its section and its key, in letters of any case;
* a plain file gives what is written in it, and with variables that lead through keys only it comes
  to one result. -/
theorem fields_come_from_layers {environment : List (String × String)}
    (names : NamesFieldsOnce environment) :
    (∀ file settings, MayLoad file environment (.ok settings) →
      ∃ laid, LaidAs file laid ∧ FromLayers laid environment settings) ∧
    (∀ (field : Field) first second document document',
      (field.setTo environment).isSome →
      Toml.parse? first = some document → Toml.parse? second = some document' →
      field.FilesDiffer document document' →
      (field.PlacedAlike document document' ∨
        ∀ key ∈ document.entries.map (·.1), (Path.ofText key.toList).hasKeysOnly = true) →
      ∀ result, MayLoad (some first) environment result ↔
        MayLoad (some second) environment result) ∧
    (∀ (field : Field) name, lowerKey name = field.variableName → field.isNamedBy name = true) ∧
    (∀ document laid, IsPlain document → document.SameButOrder laid →
      (fileWhole? (some laid)).isSome = true ∧
      ∀ field : Field,
        (field.given (some laid)).map field.read = (field.written document).map field.read ∧
        (field.isListed (some laid) = true ↔
          ∃ items, field.writtenSection document = some (.list items))) ∧
    ∀ file, (∀ document ∈ file.bind Toml.parse?, IsPlain document) → HasKeysOnly environment →
      ∀ result, MayLoad file environment result ↔ result = load file environment := by
  refine ⟨?_, ?_, ?_, ?_, ?_⟩
  · intro file settings may
    obtain ⟨laid, environment', document, order, loaded⟩ := may.exists_ofLayers_eq
    exact ⟨laid, document, fromLayers_of_ofLayers names order loaded⟩
  · intro field first second document document' set parsed parsed' differ places result
    have places : field.PlacedAlike document document' := places.elim id differ.placedAlike
    exact ⟨.of_filesDiffer names set parsed parsed' differ places,
      .of_filesDiffer names set parsed' parsed differ.symm places.symm⟩
  · intro field name alike
    exact Field.isNamedBy_of_variableName alike
  · intro document laid plain order
    have plain' := plain.of_sameButOrder order
    refine ⟨?_, fun field => ⟨?_, ?_⟩⟩
    · rw [plain'.fileWhole?_eq]
      rfl
    · rw [plain'.read_given, plain.read_written_eq order]
    · rw [plain'.isListed_iff, plain.writtenSection_eq_list_iff order]
  · intro file plain keys result
    constructor
    · intro may
      exact may.eq_load plain names keys
    · rintro rfl
      exact mayLoad_load file environment

/-! ### Some files -/

/-- Settings are loaded when what is loaded, if anything, is them. -/
lemma load_eq_ok_of_toOption {file : Option String} {environment : List (String × String)}
    {settings : Settings} (found : (load file environment).toOption = some settings) :
    load file environment = .ok settings := by
  cases loaded : load file environment with
  | error fault => rw [loaded] at found; cases found
  | ok other => rw [loaded] at found; rw [Option.some.inj found]

/-- What a file denotes that begins with a port. -/
def portDocument (port : Value) (rest : List (String × Value)) : Value :=
  .table (("server", .table [("port", port)]) :: rest)

lemma filesDiffer_portDocument (first second : Value) (rest : List (String × Value)) :
    Field.port.FilesDiffer (portDocument first rest) (portDocument second rest) := by
  have leads : Path.ofText "server".toList = [.key "server"] := by decide +kernel
  have same : lowerKey "server" = Field.port.sectionKey := by decide +kernel
  have own : lowerKey "port" = Field.port.key := by decide +kernel
  refine .cons (.inSection leads same (.table ?_)) (List.forall₂_same.2 fun entry _ => .same entry)
  simp [own]

/-- Variables for the fields that have no standard value. -/
def requiredVariables : List (String × String) :=
  [("CRASHRANK__SERVER__HOST", "h"), ("crashrank__Server__Port", "81"),
    ("CRASHRANK__DATABASE__PATH", "p")]

lemma names_requiredVariables : NamesFieldsOnce requiredVariables := by decide +kernel

/-- Whatever the file has for the port, here a list, the port is the one that the environment sets;
the file gives the size of the pool, and the rankings are the standard ones. This is the one result
that there may be. -/
theorem settings_of_requiredVariables :
    NamesFieldsOnce requiredVariables ∧
      (∃ laid, LaidAs (some "server.port = []\ndatabase.pool_size = 9\n") laid ∧
        FromLayers laid requiredVariables ⟨⟨"h", 81⟩, ⟨"p", 9⟩, {}⟩) ∧
      (∀ result,
        MayLoad (some "server.port = []\ndatabase.pool_size = 9\n") requiredVariables result
          ↔ MayLoad (some "server.port = 1\ndatabase.pool_size = 9\n") requiredVariables result) ∧
      Field.port.isNamedBy "crashrank__Server__Port" = true ∧
      (Field.poolSize.given (some (portDocument (.list [])
        [("database", .table [("pool_size", .integer 9)])]))).map Field.poolSize.read
        = some (some (9 : Nat)) ∧
      ∀ result,
        MayLoad (some "server.port = []\ndatabase.pool_size = 9\n") requiredVariables result
          ↔ result = .ok ⟨⟨"h", 81⟩, ⟨"p", 9⟩, {}⟩ := by
  have layers := fields_come_from_layers names_requiredVariables
  have loaded : load (some "server.port = []\ndatabase.pool_size = 9\n") requiredVariables
      = .ok ⟨⟨"h", 81⟩, ⟨"p", 9⟩, {}⟩ := load_eq_ok_of_toOption (by decide +kernel)
  have first : Toml.parse? "server.port = []\ndatabase.pool_size = 9\n"
      = some (portDocument (.list []) [("database", .table [("pool_size", .integer 9)])]) :=
    eq_some_of_agrees (by decide +kernel)
  have second : Toml.parse? "server.port = 1\ndatabase.pool_size = 9\n"
      = some (portDocument (.integer 1) [("database", .table [("pool_size", .integer 9)])]) :=
    eq_some_of_agrees (by decide +kernel)
  have plain :
      IsPlain (portDocument (.list []) [("database", .table [("pool_size", .integer 9)])]) :=
    ⟨by decide +kernel, by decide +kernel, by decide +kernel⟩
  refine ⟨names_requiredVariables, ?_, ?_, ?_, ?_, ?_⟩
  · refine layers.1 _ _ ?_
    rw [← loaded]
    exact mayLoad_load _ _
  · exact layers.2.1 .port _ _ _ _ (by decide +kernel) first second
      (filesDiffer_portDocument _ _ _) (.inr (by decide +kernel))
  · exact layers.2.2.1 .port _ (by decide +kernel)
  · have written : Field.poolSize.written
        (portDocument (.list []) [("database", .table [("pool_size", .integer 9)])])
          = some (.integer 9) := eq_some_of_agrees (by decide +kernel)
    rw [((layers.2.2.2.1 _ _ plain (.same _)).2 .poolSize).1, written]
    rfl
  · intro result
    rw [← loaded]
    refine layers.2.2.2.2 _ ?_ (by decide +kernel) result
    intro document parsed
    rw [Option.mem_def, Option.bind_some, first, Option.some.injEq] at parsed
    rwa [← parsed]

/-- A file with a list for the section of the database. -/
def listedDatabase : String := "database = [\"p\", 9]\n[server]\nhost = \"h\"\nport = 80\n"

/-- What the file with the list denotes. -/
def listedDocument : Value :=
  .table [("database", .list [.text "p", .integer 9]),
    ("server", .table [("host", .text "h"), ("port", .integer 80)])]

lemma parse?_listedDatabase : Toml.parse? listedDatabase = some listedDocument :=
  eq_some_of_agrees (by decide +kernel)

lemma isPlain_listedDocument : IsPlain listedDocument :=
  ⟨by decide +kernel, by decide +kernel, by decide +kernel⟩

/-- A file with a list for the port and a key that leads to the last place of the list. -/
def listedPort : String := "server.port = [0]\n\"server.port[-1]\" = 5\n"

/-- A file with the same key, where the port is no list. -/
def plainPort : String := "server.port = 0\n\"server.port[-1]\" = 5\n"

lemma parse?_listedPort : Toml.parse? listedPort =
    some (portDocument (.list [.integer 0]) [("server.port[-1]", .integer 5)]) :=
  eq_some_of_agrees (by decide +kernel)

lemma parse?_plainPort : Toml.parse? plainPort =
    some (portDocument (.integer 0) [("server.port[-1]", .integer 5)]) :=
  eq_some_of_agrees (by decide +kernel)

/-- In no order is there a list with a last place for the key to lead to. -/
lemma fileWhole?_plainPort {laid : Value}
    (order : (portDocument (.integer 0) [("server.port[-1]", .integer 5)]).SameButOrder laid) :
    fileWhole? (some laid) = none := by
  have integer (n : Int) (value : Value) (same : (Value.integer n).SameButOrder value) :
      value = .integer n := same.eq_of_ne_table fun _ => by simp
  have port : ∀ value, (Value.table [("port", .integer 0)]).SameButOrder value →
      value = .table [("port", .integer 0)] := by
    rintro _ (_ | order)
    · rfl
    · have single := order.perm (by simpa using integer 0)
      rw [List.singleton_perm.1 single]
  have entries := order.entries.perm (by
    simpa [portDocument, Value.entries] using ⟨port, integer 5⟩)
  have found : fileWhole? (some laid) = fileWhole? (some (.table laid.entries)) := rfl
  rw [← Option.isNone_iff_eq_none, found]
  rcases List.pair_perm.1 entries with written | turned
  · rw [written]
    decide +kernel
  · rw [turned]
    decide +kernel

/-- A file that gives the greatest limit under two keys that differ in case only. -/
def twoLimits : String := "ranking.max_limit = 100\nranking.MAX_LIMIT = 200\n"

/-- What the file with the two keys denotes, with the limits in some order. -/
def limitsDocument (limits : List (String × Value)) : Value := .table [("ranking", .table limits)]

lemma parse?_twoLimits : Toml.parse? twoLimits =
    some (limitsDocument [("max_limit", .integer 100), ("MAX_LIMIT", .integer 200)]) :=
  eq_some_of_agrees (by decide +kernel)

/-- Fields of settings need not be what the environment sets, else what the file gives, else the
standard value: what the environment sets in a section that the file gives as a list takes the other
fields of the list away, and a variable for a place of a section sets a field that it does not name.
Files that differ only in a field that the environment sets need not come to the same: a key of the
file may lead to a place of a list that stands for the field. And one file need not come to one
result, if two of its keys differ in case only. -/
theorem layers_do_not_decide :
    (¬ ∀ file environment, NamesFieldsOnce environment →
      ∀ settings, MayLoad file environment (.ok settings) →
        ∃ laid, LaidAs file laid ∧ ∀ field : Field,
          field.readOr (((field.setTo environment).map environmentValue).or (field.given laid))
            = some (field.get settings)) ∧
    (¬ ∀ file (environment : List (String × String)),
      (environment.Pairwise fun first second =>
        ∀ field : Field, field.isNamedBy first.1 = true → field.isNamedBy second.1 = false) →
      ∀ settings, MayLoad file environment (.ok settings) →
        ∃ laid, LaidAs file laid ∧ ∀ field : Field, field.isListed laid = false →
          field.readOr (((field.setTo environment).map environmentValue).or (field.given laid))
            = some (field.get settings)) ∧
    (¬ ∀ (field : Field) first second document document' environment,
      NamesFieldsOnce environment → (field.setTo environment).isSome →
      Toml.parse? first = some document → Toml.parse? second = some document' →
      field.FilesDiffer document document' →
      ∀ result, MayLoad (some first) environment result →
        MayLoad (some second) environment result) ∧
    (¬ ∀ file environment, NamesFieldsOnce environment →
      ∀ result result', MayLoad file environment result → MayLoad file environment result' →
        result = result') := by
  refine ⟨?_, ?_, ?_, ?_⟩
  · intro always
    have names : NamesFieldsOnce [("CRASHRANK__DATABASE__PATH", "q")] := by decide +kernel
    have loaded : load (some listedDatabase) [("CRASHRANK__DATABASE__PATH", "q")]
        = .ok ⟨⟨"h", 80⟩, ⟨"q", 4⟩, {}⟩ := load_eq_ok_of_toOption (by decide +kernel)
    have unset : Field.poolSize.setTo [("CRASHRANK__DATABASE__PATH", "q")] = none := by
      decide +kernel
    have written : Field.poolSize.written listedDocument = some (.integer 9) :=
      eq_some_of_agrees (by decide +kernel)
    obtain ⟨laid, document, fields⟩ := always _ _ names _ (loaded ▸ mayLoad_load _ _)
    obtain ⟨value, rfl, order⟩ := document.exists_eq parse?_listedDatabase
    have lost := fields .poolSize
    rw [unset, Option.map_none, Option.none_or, isPlain_listedDocument.readOr_given_eq order,
      written] at lost
    have wrong : some 9 = some 4 := lost
    cases wrong
  · intro always
    have loaded : load (some listedDatabase) [("CRASHRANK__RANKING[0]", "9")]
        = .ok ⟨⟨"h", 80⟩, ⟨"p", 9⟩, { hotWindowDays := 9 }⟩ :=
      load_eq_ok_of_toOption (by decide +kernel)
    have unset : Field.hotWindowDays.setTo [("CRASHRANK__RANKING[0]", "9")] = none := by
      decide +kernel
    have unwritten : Field.hotWindowDays.writtenSection listedDocument = none :=
      Option.isNone_iff_eq_none.1 (by decide +kernel)
    have written : Field.hotWindowDays.written listedDocument = none := by
      rw [Field.written, unwritten, Option.bind_none]
    obtain ⟨laid, document, fields⟩ :=
      always _ _ (List.pairwise_singleton _ _) _ (loaded ▸ mayLoad_load _ _)
    obtain ⟨value, rfl, order⟩ := document.exists_eq parse?_listedDatabase
    have unlisted : Field.hotWindowDays.isListed (some value) = false := by
      rw [Bool.eq_false_iff, ne_eq,
        (isPlain_listedDocument.of_sameButOrder order).isListed_iff,
        isPlain_listedDocument.writtenSection_eq_list_iff order, unwritten]
      simp
    have gained := fields .hotWindowDays unlisted
    rw [unset, Option.map_none, Option.none_or, isPlain_listedDocument.readOr_given_eq order,
      written] at gained
    have wrong : some (14 : Int) = some 9 := gained
    cases wrong
  · intro always
    have loaded : load (some listedPort) requiredVariables = .ok ⟨⟨"h", 81⟩, ⟨"p", 4⟩, {}⟩ :=
      load_eq_ok_of_toOption (by decide +kernel)
    have may := always .port _ _ _ _ requiredVariables names_requiredVariables (by decide +kernel)
      parse?_listedPort parse?_plainPort (filesDiffer_portDocument _ _ _) _
      (loaded ▸ mayLoad_load _ _)
    obtain ⟨laid, environment, document, -, same⟩ := may.exists_ofLayers_eq
    obtain ⟨value, rfl, order⟩ := document.exists_eq parse?_plainPort
    rw [ofLayers_eq, fileWhole?_plainPort order] at same
    cases same
  · intro always
    have written : MayLoad (some twoLimits) requiredVariables
        (ofLayers (some (limitsDocument [("max_limit", .integer 100), ("MAX_LIMIT", .integer 200)]))
          requiredVariables) :=
      .laid (.document parse?_twoLimits (.same _)) (.refl _)
    have turned : MayLoad (some twoLimits) requiredVariables
        (ofLayers (some (limitsDocument [("MAX_LIMIT", .integer 200), ("max_limit", .integer 100)]))
          requiredVariables) :=
      .laid (.document parse?_twoLimits (.table (.inside "ranking" [] (.swap _ _ _)))) (.refl _)
    have same := congrArg (fun result => result.toOption.map fun found => found.ranking.maxLimit)
      (always _ _ names_requiredVariables _ _ written turned)
    revert same
    decide +kernel

end CrashTriage.Settings
