import CrashTriage.Proofs.LaidLayers
import Mathlib.Data.List.Forall2

/-!
# Files that differ in one field

What is laid over two wholes that agree but for one field leaves them in such agreement, for a value
is found through keys, and keys to other values lead past the field. So two files that differ only
in what they give for a field build up wholes that agree but for this field, and once the
environment has given the field its value, both wholes denote the same settings. A step to a place
of a list is the exception: whether there is such a place may depend on the value of the field.
-/

namespace CrashTriage.Settings

/-! ### What is found under a key -/

namespace Value

/-- Where the same is found under a key, the same stands there. -/
lemma atKey_congr {first second : Value} {key : String}
    (same : first.entries.lookup key = second.entries.lookup key) :
    first.atKey key = second.atKey key := by
  unfold atKey
  rw [same]

/-- What is found under a key stands there. -/
lemma atKey_of_lookup {whole value : Value} {key : String}
    (found : whole.entries.lookup key = some value) : whole.atKey key = value := by
  unfold atKey
  rw [found]
  rfl

lemma atKey_putEntry (key : String) (value : Value) (entries : List (String × Value)) :
    (table (putEntry key value entries)).atKey key = value :=
  atKey_of_lookup (lookup_putEntry key value entries)

lemma atKey_putEntry_of_ne {key other : String} (ne : other ≠ key) (value whole : Value) :
    (table (putEntry key value whole.entries)).atKey other = whole.atKey other :=
  atKey_congr (lookup_putEntry_of_ne ne value whole.entries)

variable {key own : String} {old first second : List (String × Value)}

/-- What is found under a key depends on what was there under that key. -/
lemma lookup_overlayEntries_congr (same : first.lookup key = second.lookup key)
    (new : List (String × Value)) :
    (overlayEntries first new).lookup key = (overlayEntries second new).lookup key := by
  induction new generalizing first second with
  | nil => simpa [overlayEntries] using same
  | cons entry rest ih =>
    obtain ⟨name, value⟩ := entry
    simp only [overlayEntries]
    apply ih
    by_cases here : key = lowerKey name
    · rw [← here, lookup_putEntry, lookup_putEntry, same]
    · rw [lookup_putEntry_of_ne here, lookup_putEntry_of_ne here, same]

/-- What is found under a key does not depend on the new entries for another key. -/
lemma lookup_overlayEntries_filter (other : key ≠ own) (old new : List (String × Value)) :
    (overlayEntries old new).lookup key
      = (overlayEntries old (new.filter fun entry => lowerKey entry.1 ≠ own)).lookup key := by
  induction new generalizing old with
  | nil => rfl
  | cons entry rest ih =>
    obtain ⟨name, value⟩ := entry
    by_cases kept : lowerKey name = own
    · rw [List.filter_cons_of_neg (by simpa using kept), ← ih]
      simp only [overlayEntries]
      apply lookup_overlayEntries_congr
      rw [kept, lookup_putEntry_of_ne other]
    · rw [List.filter_cons_of_pos (by simpa using kept)]
      simp only [overlayEntries]
      exact ih _

end Value

/-! ### Agreement but for a field -/

namespace Field

/-- Two wholes agree but for a field: they hold the same outside the section of the field, and in
the section the same under all keys but that of the field. -/
structure AgreeBut (field : Field) (first second : Value) : Prop where
  sections : ∀ key, key ≠ field.sectionKey → first.entries.lookup key = second.entries.lookup key
  fields : ∀ key, key ≠ field.key →
    (first.atKey field.sectionKey).entries.lookup key
      = (second.atKey field.sectionKey).entries.lookup key

variable {field : Field} {path : Path} {new first second first' second' : Value}

lemma AgreeBut.refl (field : Field) (whole : Value) : field.AgreeBut whole whole where
  sections _ _ := rfl
  fields _ _ := rfl

/-- Outside the section of the field they hold the same. -/
lemma AgreeBut.atKey (agree : field.AgreeBut first second) {key : String}
    (other : key ≠ field.sectionKey) : first.atKey key = second.atKey key :=
  Value.atKey_congr (agree.sections key other)

/-- Two wholes that agree but for a field do so after each is given a value under a key, if the
values are the same or are sections that agree but for the field. -/
lemma AgreeBut.put (agree : field.AgreeBut first second) {key : String} {one two : Value}
    (same : key ≠ field.sectionKey → one = two)
    (inner : key = field.sectionKey → ∀ name, name ≠ field.key →
      one.entries.lookup name = two.entries.lookup name) :
    field.AgreeBut (.table (putEntry key one first.entries))
      (.table (putEntry key two second.entries)) where
  sections name outside := by
    change (putEntry key one first.entries).lookup name
      = (putEntry key two second.entries).lookup name
    by_cases here : name = key
    · rw [here, lookup_putEntry, lookup_putEntry, same (here ▸ outside)]
    · rw [lookup_putEntry_of_ne here, lookup_putEntry_of_ne here, agree.sections name outside]
  fields name other := by
    by_cases here : key = field.sectionKey
    · rw [← here, Value.atKey_putEntry, Value.atKey_putEntry]
      exact inner here name other
    · have elsewhere : field.sectionKey ≠ key := Ne.symm here
      rw [Value.atKey_putEntry_of_ne elsewhere, Value.atKey_putEntry_of_ne elsewhere]
      exact agree.fields name other

/-- Values that hold the same under all keys but one do so after the same is laid over both. -/
lemma lookup_overlayAt_congr {own : String}
    (agree : ∀ key, key ≠ own → first.entries.lookup key = second.entries.lookup key)
    (one : Value.overlayAt path new first = some first')
    (two : Value.overlayAt path new second = some second') :
    ∀ key, key ≠ own → first'.entries.lookup key = second'.entries.lookup key := by
  intro key other
  cases path with
  | nil =>
    rw [Value.overlayAt_nil, Option.some.injEq] at one two
    subst one two
    by_cases solid : ∃ entries, new = .table entries
    · obtain ⟨entries, rfl⟩ := solid
      rw [Value.entries_overlay, Value.entries_overlay]
      exact Value.lookup_overlayEntries_congr (agree key other) entries
    · rw [Value.overlay_eq_self (not_exists.1 solid), Value.overlay_eq_self (not_exists.1 solid)]
  | cons step rest =>
    cases step with
    | key name =>
      obtain ⟨a, reachedA, rfl⟩ := Value.overlayAt_key_eq_some_iff.1 one
      obtain ⟨b, reachedB, rfl⟩ := Value.overlayAt_key_eq_some_iff.1 two
      change (putEntry _ a first.entries).lookup key = (putEntry _ b second.entries).lookup key
      by_cases here : key = lowerKey name
      · rw [Value.atKey_congr (agree _ (here ▸ other)), reachedB, Option.some.injEq] at reachedA
        rw [here, lookup_putEntry, lookup_putEntry, reachedA]
      · rw [lookup_putEntry_of_ne here, lookup_putEntry_of_ne here, agree key other]
    | place index =>
      -- a list has no keys
      obtain ⟨items, rfl⟩ := Value.exists_list_of_overlayAt_place one
      obtain ⟨items', rfl⟩ := Value.exists_list_of_overlayAt_place two
      rfl

/-- Wholes that agree but for a field do so after the same assignment. -/
lemma AgreeBut.overlayAt (agree : field.AgreeBut first second) {name : String}
    (one : Value.overlayAt (.key name :: path) new first = some first')
    (two : Value.overlayAt (.key name :: path) new second = some second') :
    field.AgreeBut first' second' := by
  obtain ⟨a, reachedA, rfl⟩ := Value.overlayAt_key_eq_some_iff.1 one
  obtain ⟨b, reachedB, rfl⟩ := Value.overlayAt_key_eq_some_iff.1 two
  refine agree.put ?_ ?_
  · intro other
    rw [agree.atKey other, reachedB] at reachedA
    exact (Option.some.inj reachedA).symm
  · intro same
    rw [same] at reachedA reachedB
    exact lookup_overlayAt_congr agree.fields reachedA reachedB

/-- A path to a field or past it leads to a place in both of two such wholes, or in neither. -/
lemma AgreeBut.isSome_overlayAt (agree : field.AgreeBut first second)
    (leads : field.isAt path = true ∨ field.isPassedAt path = true) :
    (Value.overlayAt path new first).isSome = (Value.overlayAt path new second).isSome := by
  have step (name : String) (rest : Path) (whole : Value) :
      (Value.overlayAt (.key name :: rest) new whole).isSome
        = (Value.overlayAt rest new (whole.atKey (lowerKey name))).isSome := by
    rw [Value.overlayAt]
    cases Value.overlayAt rest new (whole.atKey (lowerKey name)) <;> rfl
  rcases leads with leads | passed
  · obtain ⟨part, name, rfl, -, -⟩ := isAt_iff.1 leads
    simp only [step, Value.overlayAt_nil, Option.isSome_some]
  · rcases of_isPassedAt passed with ⟨part, rest, rfl, other⟩ | ⟨part, name, rest, rfl, same, other⟩
    · rw [step, step, agree.atKey other]
    · rw [step, step, step, step, same, Value.atKey_congr (agree.fields _ other)]

/-! ### Files -/

/-- Sections that differ only in what they give for a field: tables with the same other entries, or
lists with the same items in the other places. -/
inductive SectionsDiffer (field : Field) : Value → Value → Prop
  | table {first second : List (String × Value)}
      (others : first.filter (fun entry => lowerKey entry.1 ≠ field.key)
        = second.filter fun entry => lowerKey entry.1 ≠ field.key) :
      SectionsDiffer field (.table first) (.table second)
  | list {first second : List Value}
      (others : ∀ place, place ≠ field.place → first[place]? = second[place]?) :
      SectionsDiffer field (.list first) (.list second)

/-- Entries of two files that differ only in what they give for a field: they are the same, or they
have one key, which leads to the section of the field or to the field itself. -/
inductive EntriesDiffer (field : Field) : String × Value → String × Value → Prop
  | same (entry : String × Value) : EntriesDiffer field entry entry
  | inSection {key part : String} {first second : Value}
      (leads : Path.ofText key.toList = [.key part]) (same : lowerKey part = field.sectionKey)
      (sections : field.SectionsDiffer first second) :
      EntriesDiffer field (key, first) (key, second)
  | atField {key : String} (leads : field.isAt (Path.ofText key.toList) = true)
      (first second : Value) : EntriesDiffer field (key, first) (key, second)

/-- Two files that differ only in what they give for a field. -/
def FilesDiffer (field : Field) (first second : Value) : Prop :=
  List.Forall₂ field.EntriesDiffer first.entries second.entries

/-- Two such sections hold the same under the other keys, whatever they are laid over. -/
lemma SectionsDiffer.lookup_overlay {one two : Value} (differ : field.SectionsDiffer one two)
    (agree : ∀ key, key ≠ field.key → first.entries.lookup key = second.entries.lookup key) :
    ∀ key, key ≠ field.key →
      (Value.overlay first one).entries.lookup key
        = (Value.overlay second two).entries.lookup key := by
  intro key other
  cases differ with
  | table others =>
    rw [Value.entries_overlay, Value.entries_overlay, Value.lookup_overlayEntries_filter other,
      others, ← Value.lookup_overlayEntries_filter other]
    exact Value.lookup_overlayEntries_congr (agree key other) _
  | list _ =>
    have solid (items : List Value) : ∀ entries, Value.list items ≠ .table entries := nofun
    rw [Value.overlay_eq_self (solid _), Value.overlay_eq_self (solid _)]
    rfl

/-- Wholes that agree but for a field do so after entries of two such files. -/
lemma AgreeBut.overlayAt_entry (agree : field.AgreeBut first second) {one two : String × Value}
    (differ : field.EntriesDiffer one two)
    (laid : Value.overlayAt (Path.ofText one.1.toList) one.2 first = some first')
    (laid' : Value.overlayAt (Path.ofText two.1.toList) two.2 second = some second') :
    field.AgreeBut first' second' := by
  cases differ with
  | same =>
    obtain ⟨name, rest, keyed⟩ := Path.exists_ofText_eq one.1.toList
    rw [keyed] at laid laid'
    exact agree.overlayAt laid laid'
  | inSection leads same sections =>
    rw [leads] at laid laid'
    obtain ⟨a, reached, rfl⟩ := Value.overlayAt_key_eq_some_iff.1 laid
    obtain ⟨b, reached', rfl⟩ := Value.overlayAt_key_eq_some_iff.1 laid'
    rw [Value.overlayAt_nil, same, Option.some.injEq] at reached reached'
    subst reached reached'
    exact agree.put (fun other => absurd same other) fun _ =>
      sections.lookup_overlay agree.fields
  | atField leads =>
    obtain ⟨part, name, shape, same, own⟩ := isAt_iff.1 leads
    rw [shape] at laid laid'
    obtain ⟨a, reached, rfl⟩ := Value.overlayAt_key_eq_some_iff.1 laid
    obtain ⟨b, reached', rfl⟩ := Value.overlayAt_key_eq_some_iff.1 laid'
    obtain ⟨_, -, rfl⟩ := Value.overlayAt_key_eq_some_iff.1 reached
    obtain ⟨_, -, rfl⟩ := Value.overlayAt_key_eq_some_iff.1 reached'
    refine agree.put (fun other => absurd same other) fun _ key other => ?_
    change (putEntry _ _ (first.atKey _).entries).lookup key
      = (putEntry _ _ (second.atKey _).entries).lookup key
    rw [own, same, lookup_putEntry_of_ne other, lookup_putEntry_of_ne other,
      agree.fields key other]

/-- Files that differ only in what they give for a field build up wholes that agree but for it. -/
lemma AgreeBut.foldlM_file {entries entries' : List (String × Value)}
    (differ : List.Forall₂ field.EntriesDiffer entries entries')
    (agree : field.AgreeBut first second)
    (laid : (fileAssignments (.table entries)).foldlM lay first = some first')
    (laid' : (fileAssignments (.table entries')).foldlM lay second = some second') :
    field.AgreeBut first' second' := by
  induction differ generalizing first second with
  | nil =>
    obtain rfl := Option.some.inj laid
    obtain rfl := Option.some.inj laid'
    exact agree
  | cons head _ ih =>
    obtain ⟨next, one, rest⟩ := Option.bind_eq_some_iff.1 laid
    obtain ⟨next', two, rest'⟩ := Option.bind_eq_some_iff.1 laid'
    exact ih (agree.overlayAt_entry head one two) rest rest'

/-! ### The environment over two files -/

variable {environment : List (String × String)}

/-- Over wholes that agree but for a field the environment can be laid alike. -/
lemma AgreeBut.foldlM_environment (agree : field.AgreeBut first second)
    (names : NamesFieldsOnce environment) :
    ((environmentAssignments environment).foldlM lay first = none ∧
        (environmentAssignments environment).foldlM lay second = none) ∨
      ∃ first' second', (environmentAssignments environment).foldlM lay first = some first' ∧
        (environmentAssignments environment).foldlM lay second = some second' ∧
        field.AgreeBut first' second' := by
  induction environment generalizing first second with
  | nil => exact .inr ⟨first, second, rfl, rfl, agree⟩
  | cons entry environment ih =>
    obtain ⟨name, text⟩ := entry
    cases leads : variablePath? name with
    | none =>
      rw [environmentAssignments_of_none leads]
      exact ih agree names.tail
    | some path =>
      have bearing := names.leads _ List.mem_cons_self path leads field
      rw [environmentAssignments_of_some leads, List.foldlM_cons, List.foldlM_cons]
      unfold lay at ih ⊢
      dsimp only
      have alike : (Value.overlayAt path (environmentValue text) first).isSome
          = (Value.overlayAt path (environmentValue text) second).isSome :=
        agree.isSome_overlayAt bearing
      cases one : Value.overlayAt path (environmentValue text) first with
      | none =>
        rw [one, Option.isSome_none, eq_comm, Option.isSome_eq_false_iff,
          Option.isNone_iff_eq_none] at alike
        rw [alike]
        exact .inl ⟨rfl, rfl⟩
      | some next =>
        rw [one, Option.isSome_some, eq_comm, Option.isSome_iff_exists] at alike
        obtain ⟨next', two⟩ := alike
        rw [two]
        obtain ⟨part, rest, rfl⟩ : ∃ part rest, path = .key part :: rest := by
          rcases of_isAt_or_isPassedAt bearing with
            ⟨part, rest, shape, -⟩ | ⟨part, name, rest, shape, -⟩
          · exact ⟨part, rest, shape⟩
          · exact ⟨part, _, shape⟩
        exact ih (agree.overlayAt one two) names.tail

section
variable {table table' : List (String × Value)} {other : Field}

/-- Fields of one section have the same section in a whole. -/
lemma sectionIn_congr (near : other.sectionKey = field.sectionKey) (whole : Value) :
    other.sectionIn whole = field.sectionIn whole := by
  rw [sectionIn, near, sectionIn]

/-- Two such wholes hold the same for another field, if the section of the first one is a table. -/
lemma AgreeBut.find_eq (agree : field.AgreeBut first second)
    (here : field.sectionIn first = some (.table table))
    (here' : field.sectionIn second = some (.table table')) (apart : other ≠ field) :
    other.find first = other.find second := by
  rw [find, find]
  by_cases near : other.sectionKey = field.sectionKey
  · have fields := agree.fields other.key fun alike => apart (key_injective alike)
    rw [Value.atKey_of_lookup here, Value.atKey_of_lookup here'] at fields
    rw [sectionIn_congr near, here, sectionIn_congr near, here']
    exact fields
  · have outside : other.sectionIn first = other.sectionIn second :=
      agree.sections other.sectionKey near
    rw [outside]

/-- What such wholes hold for a section may be one in both of them or in neither. -/
lemma AgreeBut.hasSection_iff (agree : field.AgreeBut first second)
    (here : field.sectionIn first = some (.table table))
    (here' : field.sectionIn second = some (.table table')) :
    other.HasSection first ↔ other.HasSection second := by
  have suits {whole : Value} {entries : List (String × Value)}
      (found : other.sectionIn whole = some (.table entries)) : other.HasSection whole := by
    intro part shape
    rw [found] at shape
    rw [← Option.some.inj shape]
    rfl
  by_cases near : other.sectionKey = field.sectionKey
  · exact iff_of_true (suits ((sectionIn_congr near first).trans here))
      (suits ((sectionIn_congr near second).trans here'))
  · have outside : other.sectionIn first = other.sectionIn second :=
      agree.sections other.sectionKey near
    rw [HasSection, HasSection, outside]

/-- Wholes that agree but for a field denote the same settings once both hold the same for it, in a
section that is a table. -/
lemma AgreeBut.ofValue?_eq {entries entries' : List (String × Value)}
    (agree : field.AgreeBut (.table entries) (.table entries'))
    (here : field.sectionIn (.table entries) = some (.table table))
    (here' : field.sectionIn (.table entries') = some (.table table'))
    (same : field.find (.table entries) = field.find (.table entries')) :
    ofValue? (.table entries) = ofValue? (.table entries') := by
  refine ofValue?_congr (fun other => agree.hasSection_iff here here') fun other => ?_
  by_cases own : other = field
  · rw [own, same]
  · rw [agree.find_eq here here' own]

end

end Field

end CrashTriage.Settings
