import CrashTriage.Proofs.SettingFields

/-!
# What the environment lays over a whole

An assignment to the path of a field gives the field its value, and one that leads past the field
leaves it as it was, unless the field stood in a list: a list is no table, so the first assignment
under a key of that section puts a table in its place. Following the variables of an environment one
by one, a field holds what its variable says, or else what the whole held before.
-/

namespace CrashTriage.Settings

/-! ### Laying a value at the end of a path -/

namespace Value

variable {old new after : Value} {name : String} {path : Path}

lemma overlayAt_nil (new old : Value) : overlayAt [] new old = some (overlay old new) := by
  simp [overlayAt]

lemma overlayAt_key_eq_some_iff :
    overlayAt (.key name :: path) new old = some after ↔
      ∃ value, overlayAt path new (old.atKey (lowerKey name)) = some value ∧
        after = .table (putEntry (lowerKey name) value old.entries) := by
  simp only [overlayAt, Option.bind_eq_bind, Option.bind_eq_some_iff, Option.pure_def,
    Option.some.injEq, @eq_comm _ after]

/-- A value for a place makes a list. -/
lemma exists_list_of_overlayAt_place {index : Int}
    (laid : overlayAt (.place index :: path) new old = some after) :
    ∃ items, after = .list items := by
  simp only [overlayAt, Option.bind_eq_bind, Option.bind_eq_some_iff] at laid
  obtain ⟨place, -, laid⟩ := laid
  split at laid
  · obtain ⟨value, -, made⟩ := Option.bind_eq_some_iff.1 laid
    exact ⟨_, (Option.some.inj made).symm⟩
  · obtain ⟨value, -, made⟩ := Option.bind_eq_some_iff.1 laid
    exact ⟨_, (Option.some.inj made).symm⟩

/-- The entries of a table are laid over those that were there, and no entries change nothing. -/
lemma entries_overlay (old : Value) (entries : List (String × Value)) :
    (overlay old (.table entries)).entries = overlayEntries old.entries entries := by
  cases entries with
  | nil => simp [overlay, overlayEntries]
  | cons entry rest => simp [overlay, Value.entries]

/-- Any other value takes the place of what was there. -/
lemma overlay_eq_self (solid : ∀ entries, new ≠ .table entries) (old : Value) :
    overlay old new = new := by
  cases new with
  | table entries => exact absurd rfl (solid entries)
  | _ => simp [overlay]

end Value

/-- The value of a variable is no table. -/
lemma environmentValue_ne_table (text : String) (entries : List (String × Value)) :
    environmentValue text ≠ .table entries := by
  unfold environmentValue
  dsimp only
  split
  · nofun
  · split
    · nofun
    · split <;> nofun

/-! ### Paths and fields -/

namespace Path

lemma exists_part?_eq {cs : List Char} {path : Path} (read : part? cs = some path) :
    ∃ name rest, path = .key name :: rest := by
  unfold part? at read
  dsimp only at read
  split at read
  · cases read
  · obtain ⟨places, -, made⟩ := Option.bind_eq_some_iff.1 read
    exact ⟨_, _, (Option.some.inj made).symm⟩

/-- Every path that is written down begins with a key. -/
lemma exists_ofText_eq (cs : List Char) : ∃ name rest, ofText cs = .key name :: rest := by
  unfold ofText
  cases read : ofText? cs with
  | none => exact ⟨_, [], rfl⟩
  | some path =>
    obtain ⟨steps, parts, rfl⟩ := Option.map_eq_some_iff.1 read
    cases split : splitOn '.' cs with
    | nil => exact absurd split (splitOn_ne_nil '.' cs)
    | cons first rest =>
      rw [split, List.mapM_cons] at parts
      obtain ⟨head, found, parts⟩ := Option.bind_eq_some_iff.1 parts
      obtain ⟨tail, -, made⟩ := Option.bind_eq_some_iff.1 parts
      obtain ⟨name, steps', rfl⟩ := exists_part?_eq found
      rw [← Option.some.inj made]
      exact ⟨name, steps' ++ tail.flatten, rfl⟩

end Path

namespace Field

/-- Whether a path leads to the field. -/
def isAt (field : Field) : Path → Bool
  | [.key part, .key name] => lowerKey part = field.sectionKey ∧ lowerKey name = field.key
  | _ => false

/-- Whether a path enters the section of the field. -/
def isEnteredAt (field : Field) : Path → Bool
  | .key part :: _ => lowerKey part = field.sectionKey
  | _ => false

/-- Whether a path leads past the field, to another section or to another key of its section. -/
def isPassedAt (field : Field) : Path → Bool
  | .key part :: .key name :: _ =>
    lowerKey part ≠ field.sectionKey ∨ lowerKey name ≠ field.key
  | .key part :: _ => lowerKey part ≠ field.sectionKey
  | _ => false

variable {field : Field} {path : Path} {old new after whole : Value}

lemma isAt_iff :
    field.isAt path = true ↔ ∃ part name, path = [.key part, .key name] ∧
      lowerKey part = field.sectionKey ∧ lowerKey name = field.key := by
  constructor
  · intro leads
    unfold isAt at leads
    split at leads
    · exact ⟨_, _, rfl, of_decide_eq_true leads⟩
    · cases leads
  · rintro ⟨part, name, rfl, same, own⟩
    exact decide_eq_true ⟨same, own⟩

/-- A path that leads past a field does not enter its section, or enters it for another key. -/
lemma of_isPassedAt (passed : field.isPassedAt path = true) :
    (∃ part rest, path = .key part :: rest ∧ lowerKey part ≠ field.sectionKey) ∨
      ∃ part name rest, path = .key part :: .key name :: rest ∧
        lowerKey part = field.sectionKey ∧ lowerKey name ≠ field.key := by
  unfold isPassedAt at passed
  split at passed
  · rename_i part name rest
    by_cases same : lowerKey part = field.sectionKey
    · have other : lowerKey name ≠ field.key := by simpa [same] using passed
      exact .inr ⟨part, name, rest, rfl, same, other⟩
    · exact .inl ⟨part, _, rfl, same⟩
  · rename_i part rest _
    exact .inl ⟨part, rest, rfl, by simpa using passed⟩
  · cases passed

/-- Whether a whole holds a list for the section of the field. -/
def isListedIn (field : Field) (whole : Value) : Bool :=
  match field.sectionIn whole with
  | some (.list _) => true
  | _ => false

/-- The table that a section is turned into holds nothing for the field when it was a list. -/
lemma lookup_entries_atKey (field : Field) (whole : Value) :
    (whole.atKey field.sectionKey).entries.lookup field.key =
      if field.isListedIn whole then none else field.find whole := by
  unfold Value.atKey isListedIn find sectionIn
  cases whole.entries.lookup field.sectionKey with
  | none => rfl
  | some part => cases part <;> rfl

/-! ### One assignment -/

/-- An assignment outside the section leaves the section as it was. -/
lemma sectionIn_of_not_entered {part : String} (other : lowerKey part ≠ field.sectionKey)
    (laid : Value.overlayAt (.key part :: path) new old = some after) :
    field.sectionIn after = field.sectionIn old := by
  obtain ⟨value, -, rfl⟩ := Value.overlayAt_key_eq_some_iff.1 laid
  exact lookup_putEntry_of_ne other.symm value old.entries

/-- An assignment under a key of the section makes the section a table. -/
lemma sectionIn_of_entered {part name : String} (same : lowerKey part = field.sectionKey)
    (laid : Value.overlayAt (.key part :: .key name :: path) new old = some after) :
    ∃ value, Value.overlayAt path new ((old.atKey field.sectionKey).atKey (lowerKey name))
        = some value ∧
      field.sectionIn after =
        some (.table (putEntry (lowerKey name) value (old.atKey field.sectionKey).entries)) := by
  obtain ⟨inner, entered, rfl⟩ := Value.overlayAt_key_eq_some_iff.1 laid
  obtain ⟨value, reached, rfl⟩ := Value.overlayAt_key_eq_some_iff.1 entered
  rw [same] at reached ⊢
  exact ⟨value, reached, lookup_putEntry _ _ _⟩

/-- An assignment to the field gives it its value. -/
lemma find_of_isAt (leads : field.isAt path = true) (solid : ∀ entries, new ≠ .table entries)
    (laid : Value.overlayAt path new old = some after) : field.find after = some new := by
  obtain ⟨part, name, rfl, same, own⟩ := isAt_iff.1 leads
  obtain ⟨value, reached, found⟩ := sectionIn_of_entered same laid
  rw [Value.overlayAt_nil, Value.overlay_eq_self solid, Option.some.injEq] at reached
  rw [find, found, own, ← reached]
  exact lookup_putEntry field.key new _

/-- An assignment that leads past the field leaves it as it was, but for a list that it enters. -/
lemma find_of_isPassedAt (passed : field.isPassedAt path = true)
    (laid : Value.overlayAt path new old = some after) :
    field.find after =
      if field.isListedIn old && field.isEnteredAt path then none else field.find old := by
  rcases of_isPassedAt passed with ⟨part, rest, rfl, other⟩ | ⟨part, name, rest, rfl, same, other⟩
  · have outside : field.isEnteredAt (.key part :: rest) = false := decide_eq_false other
    rw [outside, Bool.and_false, find, sectionIn_of_not_entered other laid]
    rfl
  · have inside : field.isEnteredAt (.key part :: .key name :: rest) = true :=
      decide_eq_true same
    obtain ⟨value, -, found⟩ := sectionIn_of_entered same laid
    rw [inside, Bool.and_true, ← lookup_entries_atKey, find, found]
    exact lookup_putEntry_of_ne other.symm value _

/-- A path to a field or past it does not enter its section, or enters it under a key. -/
lemma of_isAt_or_isPassedAt (leads : field.isAt path = true ∨ field.isPassedAt path = true) :
    (∃ part rest, path = .key part :: rest ∧ lowerKey part ≠ field.sectionKey) ∨
      ∃ part name rest, path = .key part :: .key name :: rest ∧
        lowerKey part = field.sectionKey := by
  rcases leads with leads | passed
  · obtain ⟨part, name, rfl, same, -⟩ := isAt_iff.1 leads
    exact .inr ⟨part, name, [], rfl, same⟩
  · rcases of_isPassedAt passed with outside | ⟨part, name, rest, rfl, same, -⟩
    · exact .inl outside
    · exact .inr ⟨part, name, rest, rfl, same⟩

/-- An assignment that enters a section makes it a table, and any other leaves it as it was. -/
lemma sectionIn_overlayAt (leads : field.isAt path = true ∨ field.isPassedAt path = true)
    (laid : Value.overlayAt path new old = some after) :
    (field.isEnteredAt path = true ∧ ∃ entries, field.sectionIn after = some (.table entries)) ∨
      field.isEnteredAt path = false ∧ field.sectionIn after = field.sectionIn old := by
  rcases of_isAt_or_isPassedAt leads with ⟨part, rest, rfl, other⟩ | ⟨part, name, rest, rfl, same⟩
  · exact .inr ⟨decide_eq_false other, sectionIn_of_not_entered other laid⟩
  · obtain ⟨value, -, found⟩ := sectionIn_of_entered same laid
    exact .inl ⟨decide_eq_true same, _, found⟩

end Field

/-! ### The variables of an environment -/

/-- The path that the name of a variable stands for, if it is a variable for settings. -/
def variablePath? (name : String) : Option Path :=
  let name := (lowerKey name).toList
  if environmentPrefix.isPrefixOf name then
    some (Path.ofText (pointed (name.drop environmentPrefix.length)))
  else none

/-- The whole with one more layer. -/
def lay (whole : Value) (layer : Assignment) : Option Value :=
  Value.overlayAt layer.path layer.value whole

section
variable {name text : String} {path : Path} {environment : List (String × String)}

lemma environmentAssignments_of_none (other : variablePath? name = none) :
    environmentAssignments ((name, text) :: environment) = environmentAssignments environment := by
  unfold variablePath? at other
  unfold environmentAssignments
  rw [List.filterMap_cons_none]
  dsimp only at other ⊢
  split at other
  · cases other
  · rename_i unlike
    rw [if_neg unlike]

lemma environmentAssignments_of_some (leads : variablePath? name = some path) :
    environmentAssignments ((name, text) :: environment)
      = ⟨path, environmentValue text⟩ :: environmentAssignments environment := by
  unfold variablePath? at leads
  unfold environmentAssignments
  dsimp only at leads
  split at leads
  · rename_i alike
    rw [List.filterMap_cons_some]
    dsimp only
    rw [if_pos alike, Option.some.inj leads]
  · cases leads

end

namespace Field

/-- The name of the variable for the field, in lower case. -/
def variableName (field : Field) : String :=
  "crashrank__" ++ field.sectionKey ++ "__" ++ field.key

/-- Whether a variable of a certain name is one for the field. -/
def isNamedBy (field : Field) (name : String) : Bool := (variablePath? name).any field.isAt

/-- The text that an environment gives for the field. -/
def setTo (field : Field) (environment : List (String × String)) : Option String :=
  (environment.find? fun entry => field.isNamedBy entry.1).map (·.2)

/-- Whether an environment enters the section of the field. -/
def isEnteredBy (field : Field) (environment : List (String × String)) : Bool :=
  environment.any fun entry => (variablePath? entry.1).any field.isEnteredAt

lemma isNamedBy_iff {field : Field} {name : String} :
    field.isNamedBy name = true ↔
      ∃ path, variablePath? name = some path ∧ field.isAt path = true := by
  rw [isNamedBy]
  cases variablePath? name <;> simp

section
variable {field : Field} {name text : String} {path : Path} {environment : List (String × String)}

lemma setTo_cons_of_isNamedBy (named : field.isNamedBy name = true) :
    field.setTo ((name, text) :: environment) = some text := by
  simp [setTo, named]

lemma setTo_cons_of_not_isNamedBy (unnamed : field.isNamedBy name = false) :
    field.setTo ((name, text) :: environment) = field.setTo environment := by
  simp [setTo, unnamed]

lemma isEnteredBy_cons_of_none (other : variablePath? name = none) :
    field.isEnteredBy ((name, text) :: environment) = field.isEnteredBy environment := by
  simp [isEnteredBy, other]

lemma isEnteredBy_cons_of_some (leads : variablePath? name = some path) :
    field.isEnteredBy ((name, text) :: environment)
      = (field.isEnteredAt path || field.isEnteredBy environment) := by
  simp [isEnteredBy, leads]

end

/-- An environment that sets a field enters its section. -/
lemma isEnteredBy_of_setTo {field : Field} {environment : List (String × String)} {text : String}
    (set : field.setTo environment = some text) : field.isEnteredBy environment = true := by
  obtain ⟨entry, found, -⟩ := Option.map_eq_some_iff.1 set
  have named := List.find?_some found
  obtain ⟨path, leads, own⟩ := isNamedBy_iff.1 named
  obtain ⟨part, name, rfl, same, -⟩ := isAt_iff.1 own
  refine List.any_eq_true.2 ⟨entry, List.mem_of_find?_eq_some found, ?_⟩
  rw [leads]
  exact decide_eq_true same

/-- The name of the variable for a field names it, whatever the case of its letters. -/
lemma isNamedBy_of_variableName {field : Field} {name : String}
    (alike : lowerKey name = field.variableName) : field.isNamedBy name = true := by
  unfold isNamedBy variablePath?
  rw [alike]
  cases field <;> decide +kernel

end Field

/-- An environment whose variables for settings name fields, each field at most once, or lead past
all of them. -/
structure NamesFieldsOnce (environment : List (String × String)) : Prop where
  leads : ∀ entry ∈ environment, ∀ path ∈ variablePath? entry.1,
    ∀ field : Field, field.isAt path = true ∨ field.isPassedAt path = true
  once : environment.Pairwise fun first second =>
    ∀ field : Field, field.isNamedBy first.1 = true → field.isNamedBy second.1 = false

instance (environment : List (String × String)) : Decidable (NamesFieldsOnce environment) :=
  decidable_of_iff (_ ∧ _) ⟨fun both => ⟨both.1, both.2⟩, fun names => ⟨names.leads, names.once⟩⟩

namespace NamesFieldsOnce

variable {environment : List (String × String)} {entry : String × String}

lemma tail (names : NamesFieldsOnce (entry :: environment)) : NamesFieldsOnce environment where
  leads other member := names.leads other (List.mem_cons_of_mem _ member)
  once := (List.pairwise_cons.1 names.once).2

/-- A field that the first variable names has no other variable. -/
lemma setTo_tail (names : NamesFieldsOnce (entry :: environment)) {field : Field}
    (named : field.isNamedBy entry.1 = true) : field.setTo environment = none := by
  unfold Field.setTo
  rw [Option.map_eq_none_iff, List.find?_eq_none]
  intro other member
  rw [(List.pairwise_cons.1 names.once).1 other member field named]
  exact Bool.false_ne_true

end NamesFieldsOnce

namespace Field

variable {field : Field} {environment : List (String × String)} {whole after : Value}

/-- A section that the environment enters is a table after it, and any other is as it was. -/
lemma sectionIn_foldlM (names : NamesFieldsOnce environment)
    (laid : (environmentAssignments environment).foldlM lay whole = some after) :
    (field.isEnteredBy environment = true ∧
        ∃ entries, field.sectionIn after = some (.table entries)) ∨
      field.isEnteredBy environment = false ∧ field.sectionIn after = field.sectionIn whole := by
  induction environment generalizing whole with
  | nil =>
    obtain rfl := Option.some.inj laid
    exact .inr ⟨rfl, rfl⟩
  | cons entry environment ih =>
    obtain ⟨name, text⟩ := entry
    cases leads : variablePath? name with
    | none =>
      rw [environmentAssignments_of_none leads] at laid
      rw [isEnteredBy_cons_of_none leads]
      exact ih names.tail laid
    | some path =>
      rw [environmentAssignments_of_some leads, List.foldlM_cons] at laid
      obtain ⟨next, first, rest⟩ := Option.bind_eq_some_iff.1 laid
      have step := sectionIn_overlayAt (names.leads _ List.mem_cons_self path leads field) first
      rw [isEnteredBy_cons_of_some leads]
      rcases ih names.tail rest with ⟨entered, table⟩ | ⟨unentered, same⟩
      · exact .inl ⟨by rw [entered, Bool.or_true], table⟩
      · rw [unentered, Bool.or_false, same]
        exact step

/-- What the whole holds for a field after an assignment that leads past it, if the assignments that
follow leave the field alone. -/
lemma kept_of_isPassedAt {path : Path} {new next : Value} (passed : field.isPassedAt path = true)
    (laid : Value.overlayAt path new whole = some next) (later : Bool) :
    (if field.isListedIn next && later then none else field.find next) =
      if field.isListedIn whole && (field.isEnteredAt path || later) then none
      else field.find whole := by
  have found := find_of_isPassedAt passed laid
  rcases sectionIn_overlayAt (.inr passed) laid with ⟨entered, entries, table⟩ | ⟨outside, same⟩
  · have unlisted : field.isListedIn next = false := by rw [isListedIn, table]
    rw [found, unlisted, entered, Bool.true_or, Bool.false_and]
    rfl
  · have alike : field.isListedIn next = field.isListedIn whole := by
      rw [isListedIn, same, isListedIn]
    rw [found, alike, outside, Bool.false_or, Bool.and_false]
    rfl

/-- After the environment the whole holds for a field what the variable of the field says, or else
what it held before; a list that the environment has entered holds nothing any more. -/
lemma find_foldlM (names : NamesFieldsOnce environment)
    (laid : (environmentAssignments environment).foldlM lay whole = some after) :
    field.find after = ((field.setTo environment).map environmentValue).or
      (if field.isListedIn whole && field.isEnteredBy environment then none
        else field.find whole) := by
  induction environment generalizing whole with
  | nil =>
    obtain rfl := Option.some.inj laid
    have untouched : field.isEnteredBy [] = false := rfl
    rw [untouched, Bool.and_false]
    rfl
  | cons entry environment ih =>
    obtain ⟨name, text⟩ := entry
    cases leads : variablePath? name with
    | none =>
      rw [environmentAssignments_of_none leads] at laid
      have unnamed : field.isNamedBy name = false := by rw [isNamedBy, leads]; rfl
      rw [setTo_cons_of_not_isNamedBy unnamed, isEnteredBy_cons_of_none leads]
      exact ih names.tail laid
    | some path =>
      rw [environmentAssignments_of_some leads, List.foldlM_cons] at laid
      obtain ⟨next, first, rest⟩ := Option.bind_eq_some_iff.1 laid
      rw [ih names.tail rest]
      cases own : field.isAt path with
      | true =>
        have named : field.isNamedBy name = true := by rw [isNamedBy, leads]; exact own
        obtain ⟨part, _, rfl, same, -⟩ := isAt_iff.1 own
        obtain ⟨value, -, table⟩ := sectionIn_of_entered same first
        have unlisted : field.isListedIn next = false := by rw [isListedIn, table]
        rw [names.setTo_tail named, setTo_cons_of_isNamedBy named, unlisted, Bool.false_and,
          find_of_isAt own (environmentValue_ne_table text) first]
        rfl
      | false =>
        have passed : field.isPassedAt path = true :=
          (names.leads _ List.mem_cons_self path leads field).resolve_left
            (by rw [own]; exact Bool.false_ne_true)
        have unnamed : field.isNamedBy name = false := by rw [isNamedBy, leads]; exact own
        rw [setTo_cons_of_not_isNamedBy unnamed, isEnteredBy_cons_of_some leads,
          kept_of_isPassedAt passed first]

end Field

end CrashTriage.Settings
