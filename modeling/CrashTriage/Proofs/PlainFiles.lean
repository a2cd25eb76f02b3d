import CrashTriage.Proofs.LaidLayers

/-!
# What a file holds for the fields

A file builds up a whole, key by key, and what the whole holds for a field is what the file gives
for it. In a plain file this is what is written there: the value under the key of the field in the
section of the field, where case does not matter. Files that are not plain are read as well, but
their keys may be paths, and of two keys that differ in case only the later is laid over the other.
-/

namespace CrashTriage.Settings

/-- The whole that a file, if there is one, builds up by itself. There is none when a key of the
file leads to a place that no list has. -/
def fileWhole? (file : Option Value) : Option Value :=
  layered ((file.map fileAssignments).getD [])

namespace Field

/-- What the file gives for a field. -/
def given (field : Field) (file : Option Value) : Option Value :=
  (fileWhole? file).bind field.find

/-- Whether the file gives the section of a field as a list. -/
def isListed (field : Field) (file : Option Value) : Bool :=
  (fileWhole? file).any field.isListedIn

end Field

/-! ### Plain files -/

/-- A plain file: no key of it is a path of several steps, and no two keys of it, or of one of its
sections, differ in case only. -/
structure IsPlain (file : Value) : Prop where
  keys : ∀ entry ∈ file.entries, Path.ofText entry.1.toList = [.key entry.1]
  distinct : (file.entries.map fun entry => lowerKey entry.1).Nodup
  fields : ∀ entry ∈ file.entries, (entry.2.entries.map fun inner => lowerKey inner.1).Nodup

/-- The value that is written under a key, in letters of any case. -/
def writtenUnder (key : String) (entries : List (String × Value)) : Option Value :=
  (entries.find? fun entry => lowerKey entry.1 = key).map (·.2)

namespace Field

/-- The section of a field as it is written in a file. -/
def writtenSection (field : Field) (file : Value) : Option Value :=
  writtenUnder field.sectionKey file.entries

/-- The value of a field as it is written in a file: by its key, or by its place in a list. -/
def written (field : Field) (file : Value) : Option Value :=
  (field.writtenSection file).bind fun
    | .table entries => writtenUnder field.key entries
    | .list items => items[field.place]?
    | _ => none

end Field

section
variable {key name : String} {value : Value} {entries rest : List (String × Value)}

lemma writtenUnder_cons_of_eq (same : lowerKey name = key) :
    writtenUnder key ((name, value) :: rest) = some value := by
  simp [writtenUnder, same]

lemma writtenUnder_cons_of_ne (other : lowerKey name ≠ key) :
    writtenUnder key ((name, value) :: rest) = writtenUnder key rest := by
  simp [writtenUnder, other]

lemma writtenUnder_eq_none (absent : key ∉ entries.map fun entry => lowerKey entry.1) :
    writtenUnder key entries = none := by
  rw [writtenUnder, Option.map_eq_none_iff, List.find?_eq_none]
  intro entry member same
  exact absent (List.mem_map.2 ⟨entry, member, of_decide_eq_true same⟩)

lemma mem_of_writtenUnder (here : writtenUnder key entries = some value) :
    ∃ entry ∈ entries, entry.2 = value := by
  obtain ⟨entry, found, rfl⟩ := Option.map_eq_some_iff.1 here
  exact ⟨entry, List.mem_of_find?_eq_some found, rfl⟩

end

/-! ### What a plain file builds up -/

namespace Value

/-- What is found under a key after distinct entries have been laid over others: the entry that is
written under the key, laid over what was there, or else what was there. -/
lemma lookup_overlayEntries {new : List (String × Value)}
    (distinct : (new.map fun entry => lowerKey entry.1).Nodup) (old : List (String × Value))
    (key : String) :
    (overlayEntries old new).lookup key =
      ((writtenUnder key new).map (overlay ((old.lookup key).getD (.table [])))).or
        (old.lookup key) := by
  induction new generalizing old with
  | nil => rw [overlayEntries]; rfl
  | cons entry rest ih =>
    obtain ⟨name, value⟩ := entry
    obtain ⟨alone, distinct⟩ := List.nodup_cons.1 distinct
    simp only [overlayEntries]
    rw [ih distinct]
    by_cases here : lowerKey name = key
    · subst here
      rw [writtenUnder_eq_none alone, writtenUnder_cons_of_eq rfl, lookup_putEntry]
      rfl
    · rw [writtenUnder_cons_of_ne here, lookup_putEntry_of_ne (Ne.symm here)]

/-- A table that is laid over an empty one has its own entries, with their keys in lower case. -/
lemma overlay_empty (entries : List (String × Value)) :
    overlay (.table []) (.table entries) = .table (overlayEntries [] entries) := by
  cases entries with
  | nil => simp [overlay, overlayEntries]
  | cons entry rest => simp [overlay, Value.entries]

end Value

namespace IsPlain

variable {file : Value}

/-- The keys of a plain file are laid as they are. -/
lemma foldlM_eq {entries : List (String × Value)}
    (keys : ∀ entry ∈ entries, Path.ofText entry.1.toList = [.key entry.1])
    (old : List (String × Value)) :
    (fileAssignments (.table entries)).foldlM lay (.table old)
      = some (.table (Value.overlayEntries old entries)) := by
  induction entries generalizing old with
  | nil => rw [Value.overlayEntries]; rfl
  | cons entry rest ih =>
    obtain ⟨name, value⟩ := entry
    obtain ⟨here, keys⟩ := List.forall_mem_cons.1 keys
    have first : lay (.table old) ⟨Path.ofText name.toList, value⟩
        = some (.table (putEntry (lowerKey name)
            (Value.overlay ((old.lookup (lowerKey name)).getD (.table [])) value) old)) := by
      rw [lay, here]
      exact Value.overlayAt_key_eq_some_iff.2 ⟨_, Value.overlayAt_nil _ _, rfl⟩
    change (lay (.table old) ⟨Path.ofText name.toList, value⟩ >>= fun next =>
      (fileAssignments (.table rest)).foldlM lay next) = _
    rw [first, Value.overlayEntries]
    exact ih keys _

lemma fileWhole?_eq (plain : IsPlain file) :
    fileWhole? (some file) = some (.table (Value.overlayEntries [] file.entries)) :=
  foldlM_eq plain.keys []

/-- The whole has the sections that are written in the file. -/
lemma sectionIn_eq (plain : IsPlain file) (field : Field) :
    field.sectionIn (.table (Value.overlayEntries [] file.entries))
      = (field.writtenSection file).map (Value.overlay (.table [])) := by
  unfold Field.sectionIn
  change (Value.overlayEntries [] file.entries).lookup field.sectionKey = _
  rw [Value.lookup_overlayEntries plain.distinct]
  exact Option.or_none ..

/-- A table is not read, so it does not matter that its keys come to be in lower case. -/
lemma read_overlay_empty (field : Field) (value : Value) :
    field.read (Value.overlay (.table []) value) = field.read value := by
  by_cases solid : ∃ entries, value = .table entries
  · obtain ⟨entries, rfl⟩ := solid
    rw [Value.overlay_empty]
    cases field <;> rfl
  · rw [Value.overlay_eq_self (not_exists.1 solid)]

/-- A field is read from what is written in the file. -/
lemma read_given (plain : IsPlain file) (field : Field) :
    (field.given (some file)).map field.read = (field.written file).map field.read := by
  rw [Field.given, plain.fileWhole?_eq, Option.bind_some, Field.find, plain.sectionIn_eq,
    Field.written]
  cases here : field.writtenSection file with
  | none => rfl
  | some part =>
    rw [Option.map_some, Option.bind_some, Option.bind_some, Field.inSection]
    by_cases solid : ∃ entries, part = .table entries
    · obtain ⟨entries, rfl⟩ := solid
      obtain ⟨entry, member, same⟩ := mem_of_writtenUnder here
      have distinct : (entries.map fun inner => lowerKey inner.1).Nodup := by
        have fields := plain.fields entry member
        rwa [same] at fields
      rw [Value.overlay_empty]
      change ((Value.overlayEntries [] entries).lookup field.key).map field.read
        = (writtenUnder field.key entries).map field.read
      rw [Value.lookup_overlayEntries distinct, List.lookup_nil, Option.or_none, Option.map_map]
      congr 1
      funext value
      exact read_overlay_empty field value
    · rw [Value.overlay_eq_self (not_exists.1 solid)]
      cases part with
      | table entries => exact absurd ⟨entries, rfl⟩ solid
      | _ => rfl

/-- A section is given as a list when it is written as one. -/
lemma isListed_iff (plain : IsPlain file) (field : Field) :
    field.isListed (some file) = true ↔
      ∃ items, field.writtenSection file = some (.list items) := by
  rw [Field.isListed, plain.fileWhole?_eq, Option.any_some, Field.isListedIn, plain.sectionIn_eq]
  cases field.writtenSection file with
  | none => simp
  | some part =>
    cases part with
    | table entries => simp [Value.overlay_empty]
    | _ => simp [Value.overlay]

end IsPlain

end CrashTriage.Settings
