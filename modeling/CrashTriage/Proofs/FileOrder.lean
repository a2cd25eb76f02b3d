import CrashTriage.Proofs.AgreeingFiles
import CrashTriage.Proofs.PlainFiles
import CrashTriage.Settings.Order

/-!
# Files and environments in another order

Loading follows the order in which hash maps give their entries. Two files that differ in one field
can be put in matching orders, in which they still differ in this field only. In a plain file each
field is written once, so the order does not matter, and neither does the order of variables that
name each field at most once. What is left to depend on an order are steps to places of lists:
where there are keys only, all layers can be laid.
-/

namespace CrashTriage.Settings

/-! ### Entries in another order -/

namespace Reordered

variable {first second : List (String × Value)}

@[symm] lemma symm (order : Reordered first second) : Reordered second first := by
  induction order with
  | nil => exact .nil
  | cons entry _ ih => exact .cons entry ih
  | inside key rest _ ih => exact .inside key rest ih
  | swap one two rest => exact .swap two one rest
  | trans _ _ ih ih' => exact ih'.trans ih

/-- The keys stay, in another order. -/
lemma keys_perm (order : Reordered first second) :
    (first.map (·.1)).Perm (second.map (·.1)) := by
  induction order with
  | nil => exact .nil
  | cons entry _ ih => exact ih.cons entry.1
  | inside => exact .refl _
  | swap one two rest => exact .swap two.1 one.1 _
  | trans _ _ ih ih' => exact ih.trans ih'

lemma append_left (kept : List (String × Value)) (order : Reordered first second) :
    Reordered (kept ++ first) (kept ++ second) := by
  induction kept with
  | nil => exact order
  | cons entry _ ih => exact .cons entry ih

/-- The entries with certain keys are in another order as well. -/
lemma filter (p : String → Bool) (order : Reordered first second) :
    Reordered (first.filter fun entry => p entry.1) (second.filter fun entry => p entry.1) := by
  induction order with
  | nil => exact .nil
  | cons entry _ ih =>
    rw [List.filter_cons, List.filter_cons]
    split
    · exact .cons entry ih
    · exact ih
  | inside key rest order _ =>
    rw [List.filter_cons, List.filter_cons]
    dsimp only
    split
    · exact .inside key _ order
    · exact .refl _
  | swap one two rest => exact .of_perm ((List.Perm.swap two one rest).filter _)
  | trans _ _ ih ih' => exact ih.trans ih'

/-- If two lists have the same entries with certain keys and one is put in another order, the other
can be put in an order in which they still have. -/
lemma exists_filter_eq (order : Reordered first second) (p : String → Bool)
    {entries : List (String × Value)}
    (shared : (first.filter fun entry => p entry.1) = entries.filter fun entry => p entry.1) :
    ∃ entries', Reordered entries entries' ∧
      (second.filter fun entry => p entry.1) = entries'.filter fun entry => p entry.1 := by
  let own := entries.filter fun entry => !p entry.1
  refine ⟨own ++ second.filter fun entry => p entry.1, ?_, by simp [own, List.filter_filter]⟩
  have parted : Reordered entries (own ++ entries.filter fun entry => p entry.1) :=
    .of_perm ((List.filter_append_perm (fun entry => p entry.1) entries).symm.trans
      List.perm_append_comm)
  rw [← shared] at parted
  exact parted.trans ((order.filter p).append_left own)

/-- Entries whose values have no other order are put in another order as a whole. -/
lemma perm (order : Reordered first second)
    (rigid : ∀ entry ∈ first, ∀ value, entry.2.SameButOrder value → value = entry.2) :
    first.Perm second := by
  induction order with
  | nil => exact .nil
  | cons entry _ ih => exact (ih (List.forall_mem_cons.1 rigid).2).cons entry
  | inside key rest order _ =>
    rw [(List.forall_mem_cons.1 rigid).1 _ (.table order)]
  | swap one two rest => exact .swap two one rest
  | trans _ _ ih ih' =>
    have before := ih rigid
    exact before.trans (ih' fun entry member => rigid entry (before.mem_iff.2 member))

end Reordered

namespace Value.SameButOrder

variable {first second third : Value}

@[symm] lemma symm (same : first.SameButOrder second) : second.SameButOrder first := by
  cases same with
  | same => exact .same _
  | table order => exact .table order.symm

lemma trans (same : first.SameButOrder second) (next : second.SameButOrder third) :
    first.SameButOrder third := by
  cases same with
  | same => exact next
  | table order =>
    cases next with
    | same => exact .table order
    | table order' => exact .table (order.trans order')

/-- Only tables have another order. -/
lemma eq_of_ne_table (same : first.SameButOrder second)
    (solid : ∀ entries, first ≠ .table entries) : second = first := by
  cases same with
  | same => rfl
  | table => exact absurd rfl (solid _)

lemma entries (same : first.SameButOrder second) : Reordered first.entries second.entries := by
  cases same with
  | same => exact .refl _
  | table order => exact order

end Value.SameButOrder

/-- Each entry comes from one with the same key and with the same value but for the order. -/
lemma Reordered.exists_mem {first second : List (String × Value)}
    (order : Reordered first second) {key : String} {value : Value}
    (member : (key, value) ∈ second) :
    ∃ other, (key, other) ∈ first ∧ other.SameButOrder value := by
  induction order generalizing value with
  | nil => cases member
  | cons entry _ ih =>
    rcases List.mem_cons.1 member with rfl | later
    · exact ⟨value, List.mem_cons_self, .same value⟩
    · obtain ⟨other, found, same⟩ := ih later
      exact ⟨other, List.mem_cons_of_mem _ found, same⟩
  | inside _ _ order _ =>
    rcases List.mem_cons.1 member with here | later
    · cases here
      exact ⟨_, List.mem_cons_self, .table order⟩
    · exact ⟨value, List.mem_cons_of_mem _ later, .same value⟩
  | swap one two rest =>
    exact ⟨value, (List.Perm.swap one two rest).mem_iff.1 member, .same value⟩
  | trans _ _ ih ih' =>
    obtain ⟨middle, member, next⟩ := ih' member
    obtain ⟨other, member, same⟩ := ih member
    exact ⟨other, member, same.trans next⟩

/-- Where keys differ in more than case, what is written under a key is the value of an entry. -/
lemma writtenUnder_eq_some_iff {entries : List (String × Value)} {key : String} {value : Value}
    (distinct : (entries.map fun entry => lowerKey entry.1).Nodup) :
    writtenUnder key entries = some value ↔
      ∃ name, lowerKey name = key ∧ (name, value) ∈ entries := by
  induction entries with
  | nil => simp [writtenUnder]
  | cons entry rest ih =>
    obtain ⟨name, other⟩ := entry
    obtain ⟨alone, distinct⟩ := List.nodup_cons.1 distinct
    by_cases here : lowerKey name = key
    · rw [writtenUnder_cons_of_eq here, Option.some.injEq]
      constructor
      · rintro rfl
        exact ⟨name, here, List.mem_cons_self⟩
      · rintro ⟨name', same, member⟩
        rcases List.mem_cons.1 member with first | later
        · exact (congrArg Prod.snd first).symm
        · exact absurd (List.mem_map.2 ⟨_, later, same.trans here.symm⟩) alone
    · rw [writtenUnder_cons_of_ne here, ih distinct]
      have apart (name' : String) (same : lowerKey name' = key) :
          (name', value) ≠ (name, other) := by
        rintro ⟨⟩
        exact here same
      simp only [List.mem_cons]
      exact exists_congr fun name' => and_congr_right fun same =>
        (or_iff_right (apart name' same)).symm

/-- Keys that differ in more than case do so in every order. -/
lemma Reordered.nodup_lowerKeys {first second : List (String × Value)}
    (order : Reordered first second)
    (distinct : (first.map fun entry => lowerKey entry.1).Nodup) :
    (second.map fun entry => lowerKey entry.1).Nodup := by
  have keys := (order.keys_perm.map lowerKey).nodup_iff
  rw [List.map_map, List.map_map] at keys
  exact keys.1 distinct

/-- Entries in another order hold the same under a key, if their keys differ in more than case. -/
lemma Reordered.rel_writtenUnder {first second : List (String × Value)}
    (order : Reordered first second)
    (distinct : (first.map fun entry => lowerKey entry.1).Nodup) (key : String) :
    Option.Rel Value.SameButOrder (writtenUnder key first) (writtenUnder key second) := by
  have distinct' := order.nodup_lowerKeys distinct
  cases here : writtenUnder key first with
  | some value =>
    obtain ⟨name, same, member⟩ := (writtenUnder_eq_some_iff distinct).1 here
    obtain ⟨other, member, like⟩ := order.symm.exists_mem member
    rw [(writtenUnder_eq_some_iff distinct').2 ⟨name, same, member⟩]
    exact .some like.symm
  | none =>
    cases there : writtenUnder key second with
    | none => exact .none
    | some value =>
      obtain ⟨name, same, member⟩ := (writtenUnder_eq_some_iff distinct').1 there
      obtain ⟨other, member, -⟩ := order.exists_mem member
      rw [(writtenUnder_eq_some_iff distinct).2 ⟨name, same, member⟩] at here
      cases here

/-! ### Plain files in another order -/

namespace IsPlain

variable {document laid : Value}

/-- A plain file is plain in every order. -/
lemma of_sameButOrder (plain : IsPlain document) (order : document.SameButOrder laid) :
    IsPlain laid where
  keys := by
    rintro ⟨key, _⟩ member
    obtain ⟨other, member, -⟩ := order.entries.exists_mem member
    exact plain.keys (key, other) member
  distinct := order.entries.nodup_lowerKeys plain.distinct
  fields := by
    rintro ⟨key, _⟩ member
    obtain ⟨other, member, same⟩ := order.entries.exists_mem member
    exact same.entries.nodup_lowerKeys (plain.fields (key, other) member)

/-- In another order the same is written for the section of a field, but for the order of a table.
-/
lemma writtenSection_eq_or (plain : IsPlain document) (order : document.SameButOrder laid)
    (field : Field) :
    field.writtenSection laid = field.writtenSection document ∨
      ∃ first second, Reordered first second ∧
        field.writtenSection document = some (.table first) ∧
        field.writtenSection laid = some (.table second) := by
  have sections : Option.Rel Value.SameButOrder (field.writtenSection document)
      (field.writtenSection laid) :=
    order.entries.rel_writtenUnder plain.distinct field.sectionKey
  generalize field.writtenSection document = one at sections ⊢
  generalize field.writtenSection laid = two at sections ⊢
  cases sections with
  | none => exact .inl rfl
  | some like =>
    cases like with
    | same => exact .inl rfl
    | table order => exact .inr ⟨_, _, order, rfl, rfl⟩

/-- Values that are the same but for their order are read alike, as no table is read. -/
lemma map_read_eq {one two : Option Value} (same : Option.Rel Value.SameButOrder one two)
    (field : Field) : one.map field.read = two.map field.read := by
  cases same with
  | none => rfl
  | some like =>
    cases like with
    | same => rfl
    | table => cases field <;> rfl

/-- In another order the same is read for a field. -/
lemma read_written_eq (plain : IsPlain document) (order : document.SameButOrder laid)
    (field : Field) :
    (field.written laid).map field.read = (field.written document).map field.read := by
  unfold Field.written
  rcases plain.writtenSection_eq_or order field with same | ⟨first, second, order, here, there⟩
  · rw [same]
  · obtain ⟨entry, member, same⟩ := mem_of_writtenUnder here
    have distinct : (first.map fun entry => lowerKey entry.1).Nodup := by
      have fields := plain.fields entry member
      rwa [same] at fields
    rw [here, there]
    exact (map_read_eq (order.rel_writtenUnder distinct field.key) field).symm

/-- In each order a field is read from what is written in the file. -/
lemma readOr_given_eq (plain : IsPlain document) (order : document.SameButOrder laid)
    (field : Field) :
    field.readOr (field.given (some laid)) = field.readOr (field.written document) :=
  Field.readOr_congr (((plain.of_sameButOrder order).read_given field).trans
    (plain.read_written_eq order field))

/-- In another order the same sections are written as lists. -/
lemma writtenSection_eq_list_iff (plain : IsPlain document) (order : document.SameButOrder laid)
    (field : Field) :
    (∃ items, field.writtenSection laid = some (.list items)) ↔
      ∃ items, field.writtenSection document = some (.list items) := by
  rcases plain.writtenSection_eq_or order field with same | ⟨first, second, -, here, there⟩
  · rw [same]
  · simp [here, there]

end IsPlain

/-! ### Files that differ in one field, in another order -/

namespace Field

variable {field : Field}

lemma SectionsDiffer.symm {first second : Value} (differ : field.SectionsDiffer first second) :
    field.SectionsDiffer second first := by
  cases differ with
  | table others => exact .table others.symm
  | list others => exact .list fun place other => (others place other).symm

lemma EntriesDiffer.symm {one two : String × Value} (differ : field.EntriesDiffer one two) :
    field.EntriesDiffer two one := by
  cases differ with
  | same => exact .same _
  | inSection leads same sections => exact .inSection leads same sections.symm
  | atField leads first second => exact .atField leads second first

lemma FilesDiffer.symm {first second : Value} (differ : field.FilesDiffer first second) :
    field.FilesDiffer second first :=
  (List.Forall₂.imp (fun _ _ => EntriesDiffer.symm) differ).flip

lemma FilesDiffer.keys_eq {first second : Value} (differ : field.FilesDiffer first second) :
    first.entries.map (·.1) = second.entries.map (·.1) := by
  unfold FilesDiffer at differ
  generalize first.entries = one, second.entries = two at differ ⊢
  induction differ with
  | nil => rfl
  | cons head _ ih =>
    rw [List.map_cons, List.map_cons, ih]
    cases head <;> rfl

/-- Sections that differ in one field do so after one of them is put in another order, if the other
one is as well. -/
lemma SectionsDiffer.exists_sameButOrder {first second : List (String × Value)} {other : Value}
    (differ : field.SectionsDiffer (.table first) other) (order : Reordered first second) :
    ∃ other', other.SameButOrder other' ∧ field.SectionsDiffer (.table second) other' := by
  cases differ with
  | table others =>
    obtain ⟨entries, order', others'⟩ :=
      order.exists_filter_eq (fun key => decide (lowerKey key ≠ field.key)) others
    exact ⟨.table entries, .table order', .table others'⟩

/-- Entries of two files that differ in one field, one by one, do so in matching orders. -/
lemma exists_forall₂_of_reordered {first second other : List (String × Value)}
    (order : Reordered first second) (differ : List.Forall₂ field.EntriesDiffer first other) :
    ∃ other', Reordered other other' ∧ List.Forall₂ field.EntriesDiffer second other' := by
  induction order generalizing other with
  | nil => exact ⟨other, .refl other, differ⟩
  | cons _ _ ih =>
    obtain ⟨entry, rest, head, tail, rfl⟩ := List.forall₂_cons_left_iff.1 differ
    obtain ⟨rest', order, tail⟩ := ih tail
    exact ⟨entry :: rest', .cons entry order, .cons head tail⟩
  | inside key _ order _ =>
    obtain ⟨entry, rest, head, tail, rfl⟩ := List.forall₂_cons_left_iff.1 differ
    cases head with
    | same => exact ⟨_, .inside key rest order, .cons (.same _) tail⟩
    | inSection leads same sections =>
      obtain ⟨value, like, sections⟩ := sections.exists_sameButOrder order
      refine ⟨(key, value) :: rest, ?_, .cons (.inSection leads same sections) tail⟩
      cases like with
      | same => exact .refl _
      | table order => exact .inside key rest order
    | atField leads => exact ⟨_, .refl _, .cons (.atField leads _ _) tail⟩
  | swap =>
    obtain ⟨one, _, head, later, rfl⟩ := List.forall₂_cons_left_iff.1 differ
    obtain ⟨two, rest, next, tail, rfl⟩ := List.forall₂_cons_left_iff.1 later
    exact ⟨two :: one :: rest, .swap one two rest, .cons next (.cons head tail)⟩
  | trans _ _ ih ih' =>
    obtain ⟨_, order, differ⟩ := ih differ
    obtain ⟨other', order', differ⟩ := ih' differ
    exact ⟨other', order.trans order', differ⟩

/-- Two files that differ in one field can be put in matching orders. -/
lemma FilesDiffer.exists_sameButOrder {first second laid : Value}
    (differ : field.FilesDiffer first second) (order : first.SameButOrder laid) :
    ∃ laid', second.SameButOrder laid' ∧ field.FilesDiffer laid laid' := by
  cases order with
  | same => exact ⟨second, .same second, differ⟩
  | @table entries entries' order =>
    obtain ⟨other, order', differ'⟩ := exists_forall₂_of_reordered order differ
    cases second with
    | table => exact ⟨.table other, .table order', differ'⟩
    | _ =>
      -- a value that is no table has no entries, and then neither has the other
      cases differ
      have empty : entries' = [] := by simpa using order.keys_perm
      subst empty
      exact ⟨_, .same _, .nil⟩

end Field

/-! ### Environments in another order -/

section
variable {environment environment' : List (String × String)} {field : Field}

/-- In an environment that names a field at most once, the variable that names it sets it. -/
lemma NamesFieldsOnce.setTo_eq_some_iff (names : NamesFieldsOnce environment) {text : String} :
    field.setTo environment = some text ↔
      ∃ name, field.isNamedBy name = true ∧ (name, text) ∈ environment := by
  induction environment with
  | nil => simp [Field.setTo]
  | cons entry rest ih =>
    obtain ⟨name, other⟩ := entry
    cases named : field.isNamedBy name with
    | true =>
      rw [Field.setTo_cons_of_isNamedBy named, Option.some.injEq]
      constructor
      · rintro rfl
        exact ⟨name, named, List.mem_cons_self⟩
      · rintro ⟨name', named', member⟩
        rcases List.mem_cons.1 member with first | later
        · exact (congrArg Prod.snd first).symm
        · have unnamed := (List.pairwise_cons.1 names.once).1 _ later field named
          rw [named'] at unnamed
          cases unnamed
    | false =>
      rw [Field.setTo_cons_of_not_isNamedBy named, ih names.tail]
      refine exists_congr fun name' => and_congr_right fun named' => ?_
      rw [List.mem_cons, or_iff_right]
      rintro ⟨⟩
      rw [named] at named'
      cases named'

/-- Variables that name fields at most once do so in every order. -/
lemma NamesFieldsOnce.perm (names : NamesFieldsOnce environment)
    (order : environment.Perm environment') : NamesFieldsOnce environment' where
  leads entry member := names.leads entry (order.mem_iff.2 member)
  once := by
    refine (order.pairwise_iff ?_).1 names.once
    intro first second apart field named
    cases named' : field.isNamedBy first.1 with
    | false => rfl
    | true =>
      rw [apart field named'] at named
      cases named

lemma NamesFieldsOnce.setTo_perm (names : NamesFieldsOnce environment)
    (order : environment.Perm environment') :
    field.setTo environment' = field.setTo environment := by
  apply Option.ext
  intro text
  rw [(names.perm order).setTo_eq_some_iff, names.setTo_eq_some_iff]
  simp only [order.mem_iff]

lemma Field.isEnteredBy_perm (order : environment.Perm environment') :
    field.isEnteredBy environment' = field.isEnteredBy environment :=
  order.any_eq.symm

end

/-! ### Paths with keys only -/

/-- Whether a path leads through keys only, and to no place of a list. -/
def Path.hasKeysOnly (path : Path) : Bool :=
  path.all fun
    | .key _ => true
    | .place _ => false

/-- An environment whose variables for settings lead through keys only. -/
def HasKeysOnly (environment : List (String × String)) : Prop :=
  ∀ entry ∈ environment, ∀ path ∈ variablePath? entry.1, path.hasKeysOnly = true

instance (environment : List (String × String)) : Decidable (HasKeysOnly environment) :=
  inferInstanceAs (Decidable (∀ _ ∈ environment, ∀ _ ∈ _, _))

/-- A value can be laid at the end of a path with keys only, whatever was there. -/
lemma Value.exists_overlayAt_eq {path : Path} (keys : path.hasKeysOnly = true) (new old : Value) :
    ∃ after, Value.overlayAt path new old = some after := by
  induction path generalizing old with
  | nil => exact ⟨_, Value.overlayAt_nil new old⟩
  | cons step rest ih =>
    cases step with
    | key name =>
      obtain ⟨value, reached⟩ := ih keys (old.atKey (lowerKey name))
      exact ⟨_, Value.overlayAt_key_eq_some_iff.2 ⟨value, reached, rfl⟩⟩
    | place => cases keys

/-- Assignments to such paths can be laid one after the other. -/
lemma exists_foldlM_lay_eq {assignments : List Assignment}
    (keys : ∀ layer ∈ assignments, layer.path.hasKeysOnly = true) (whole : Value) :
    ∃ after, assignments.foldlM lay whole = some after := by
  induction assignments generalizing whole with
  | nil => exact ⟨whole, rfl⟩
  | cons layer rest ih =>
    obtain ⟨here, keys⟩ := List.forall_mem_cons.1 keys
    obtain ⟨next, first⟩ := Value.exists_overlayAt_eq here layer.value whole
    obtain ⟨after, later⟩ := ih keys next
    refine ⟨after, ?_⟩
    rw [List.foldlM_cons]
    exact Option.bind_eq_some_iff.2 ⟨next, first, later⟩

/-- A file whose keys lead to no place of a list builds up a whole. -/
lemma exists_fileWhole?_eq {document : Value}
    (keys : ∀ key ∈ document.entries.map (·.1), (Path.ofText key.toList).hasKeysOnly = true) :
    ∃ whole, fileWhole? (some document) = some whole := by
  refine exists_foldlM_lay_eq ?_ (.table [])
  intro layer member
  obtain ⟨⟨key, value⟩, found, rfl⟩ := List.mem_map.1 member
  exact keys key (List.mem_map.2 ⟨(key, value), found, rfl⟩)

/-- An environment whose variables lead to no place of a list can be laid over each whole. -/
lemma HasKeysOnly.exists_foldlM_eq {environment : List (String × String)}
    (keys : HasKeysOnly environment) (whole : Value) :
    ∃ after, (environmentAssignments environment).foldlM lay whole = some after := by
  induction environment generalizing whole with
  | nil => exact ⟨whole, rfl⟩
  | cons entry rest ih =>
    obtain ⟨name, text⟩ := entry
    have keys' : HasKeysOnly rest := fun other member => keys other (List.mem_cons_of_mem _ member)
    cases leads : variablePath? name with
    | none =>
      rw [environmentAssignments_of_none leads]
      exact ih keys' whole
    | some path =>
      have here := keys _ List.mem_cons_self path leads
      obtain ⟨next, first⟩ := Value.exists_overlayAt_eq here (environmentValue text) whole
      obtain ⟨after, later⟩ := ih keys' next
      refine ⟨after, ?_⟩
      rw [environmentAssignments_of_some leads, List.foldlM_cons]
      exact Option.bind_eq_some_iff.2 ⟨next, first, later⟩

/-! ### What is read in another order -/

/-- Wholes that hold the same for each field as far as it is read. -/
structure ReadAlike (first second : Value) : Prop where
  listed : ∀ field : Field, field.isListedIn first = field.isListedIn second
  sections : ∀ field : Field, field.HasSection first ↔ field.HasSection second
  fields : ∀ field : Field,
    (field.find first).map field.read = (field.find second).map field.read

/-- A plain file builds up a whole from which the same is read in every order. -/
lemma IsPlain.readAlike {document laid : Value} (plain : IsPlain document)
    (order : document.SameButOrder laid) :
    ReadAlike (.table (Value.overlayEntries [] document.entries))
      (.table (Value.overlayEntries [] laid.entries)) := by
  have plain' := plain.of_sameButOrder order
  refine ⟨?_, ?_, ?_⟩
  · intro field
    rw [Field.isListedIn, Field.isListedIn, plain.sectionIn_eq, plain'.sectionIn_eq]
    rcases plain.writtenSection_eq_or order field with same | ⟨first, second, -, here, there⟩
    · rw [same]
    · simp [here, there, Value.overlay_empty]
  · intro field
    rw [Field.HasSection, Field.HasSection, plain.sectionIn_eq, plain'.sectionIn_eq]
    rcases plain.writtenSection_eq_or order field with same | ⟨first, second, -, here, there⟩
    · rw [same]
    · simp [here, there, Value.overlay_empty, isSection]
  · intro field
    have read := plain.read_given field
    have read' := plain'.read_given field
    rw [Field.given, plain.fileWhole?_eq, Option.bind_some] at read
    rw [Field.given, plain'.fileWhole?_eq, Option.bind_some] at read'
    rw [read, read', plain.read_written_eq order]

/-- After an environment a whole has something for a section that may be one, if it had so before or
if the environment enters the section. -/
lemma Field.hasSection_foldlM_iff {field : Field} {environment : List (String × String)}
    {whole after : Value} (names : NamesFieldsOnce environment)
    (laid : (environmentAssignments environment).foldlM lay whole = some after) :
    field.HasSection after ↔ field.isEnteredBy environment = true ∨ field.HasSection whole := by
  have cases : (field.isEnteredBy environment = true ∧
        ∃ entries, field.sectionIn after = some (.table entries)) ∨
      field.isEnteredBy environment = false ∧ field.sectionIn after = field.sectionIn whole :=
    sectionIn_foldlM names laid
  unfold HasSection
  rcases cases with ⟨entered, entries, table⟩ | ⟨unentered, same⟩
  · simp [entered, table, isSection]
  · simp [unentered, same]

/-- Under an environment in any order such wholes denote the same settings. -/
lemma ReadAlike.ofValue?_eq {environment environment' : List (String × String)}
    {whole whole' : Value} {entries entries' : List (String × Value)}
    (alike : ReadAlike whole whole') (names : NamesFieldsOnce environment)
    (order : environment.Perm environment')
    (laid : (environmentAssignments environment).foldlM lay whole = some (.table entries))
    (laid' : (environmentAssignments environment').foldlM lay whole' = some (.table entries')) :
    ofValue? (.table entries) = ofValue? (.table entries') := by
  refine ofValue?_congr (fun field => ?_) fun field => ?_
  · rw [Field.hasSection_foldlM_iff names laid,
      Field.hasSection_foldlM_iff (names.perm order) laid', Field.isEnteredBy_perm order,
      alike.sections]
  · rw [Field.find_foldlM names laid, Field.find_foldlM (names.perm order) laid',
      names.setTo_perm order, Field.isEnteredBy_perm order, alike.listed field]
    cases field.setTo environment with
    | some text => rfl
    | none =>
      rw [Option.map_none, Option.none_or, Option.none_or]
      split
      · rfl
      · exact alike.fields field

end CrashTriage.Settings
