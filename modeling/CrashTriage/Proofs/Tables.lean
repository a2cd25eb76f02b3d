import CrashTriage.Store.Remove
import Mathlib.Tactic.Lemma

/-!
# Look-ups after changes of a table

The laws by which later files compute what a register or a ledger contains after a row has been
entered, changed or removed, what a look-up finds there, and that rows of a table differ.
-/

namespace CrashTriage

/-- A list in which rows differ, but no two of its members do, has one member at most. -/
lemma length_le_one_of_pairwise {ρ : Type} {Differ : ρ → ρ → Prop} {rows : List ρ}
    (differ : rows.Pairwise Differ) (agree : ∀ a ∈ rows, ∀ b ∈ rows, ¬ Differ a b) :
    rows.length ≤ 1 := by
  match rows with
  | [] => exact Nat.zero_le 1
  | [row] => exact Nat.le_refl 1
  | first :: second :: rest =>
    have apart := (List.pairwise_cons.1 differ).1 second List.mem_cons_self
    exact absurd apart (agree first (by simp) second (by simp))

namespace Register

variable {ρ : Type} [Identified ρ] {register : Register ρ}

/-- The next id is the id of no row. -/
lemma contains_nextId : register.contains register.nextId = false := by
  rw [Bool.eq_false_iff]
  intro taken
  obtain ⟨row, member, same⟩ := contains_iff.1 taken
  have := lt_nextId member
  omega

@[simp] lemma contains_insert {row : ρ} {h : Identified.id row = register.nextId} {id : Int} :
    (register.insert row h).contains id =
      (register.contains id || decide (register.nextId = id)) := by
  simp [contains, h]

@[simp] lemma contains_modify {change : ρ → ρ}
    {h : ∀ row, Identified.id (change row) = Identified.id row} {id : Int} :
    (register.modify change h).contains id = register.contains id := by
  simp [contains, List.any_map, Function.comp_def, h]

@[simp] lemma contains_update {k : Int} {change : ρ → ρ}
    {h : ∀ row, Identified.id (change row) = Identified.id row} {id : Int} :
    (register.update k change h).contains id = register.contains id :=
  contains_modify

/-- A register from which rows are removed by their ids contains the other ids. -/
lemma contains_filter {gone : Int → Bool} {id : Int} :
    (register.filter fun row => !gone (Identified.id row)).contains id
      = (register.contains id && !gone id) := by
  rw [Bool.eq_iff_iff, contains_iff, Bool.and_eq_true, contains_iff]
  simp only [rows_filter, List.mem_filter]
  constructor
  · rintro ⟨row, ⟨member, kept⟩, rfl⟩
    exact ⟨⟨row, member, rfl⟩, kept⟩
  · rintro ⟨⟨row, member, rfl⟩, kept⟩
    exact ⟨row, ⟨member, kept⟩, rfl⟩

/-- A row of a register is what a look-up of its id finds. -/
lemma find?_id {row : ρ} (member : row ∈ register.rows) :
    register.find? (Identified.id row) = some row :=
  find?_eq_some_iff.2 ⟨member, rfl⟩

/-- Rows of a register with the same id are the same row. -/
lemma eq_of_id_eq {a b : ρ} (ha : a ∈ register.rows) (hb : b ∈ register.rows)
    (same : Identified.id a = Identified.id b) : a = b := by
  have found := find?_id ha
  rw [same, find?_id hb] at found
  exact (Option.some.inj found).symm

/-- Some row with an id passes a test exactly when the row that a look-up of the id finds does. -/
lemma any_id_and {id : Int} {test : ρ → Bool} :
    (register.rows.any fun row => Identified.id row = id && test row)
      = (register.find? id).any test := by
  rw [Bool.eq_iff_iff, List.any_eq_true, Option.any_eq_true]
  constructor
  · rintro ⟨row, member, both⟩
    rw [Bool.and_eq_true, decide_eq_true_iff] at both
    exact ⟨row, find?_eq_some_iff.2 ⟨member, both.1⟩, both.2⟩
  · rintro ⟨row, found, pass⟩
    obtain ⟨member, same⟩ := find?_eq_some_iff.1 found
    refine ⟨row, member, ?_⟩
    rw [Bool.and_eq_true, decide_eq_true_iff]
    exact ⟨same, pass⟩

end Register

namespace Ledger

variable {ρ κ : Type} [Keyed ρ κ] [DecidableEq κ] {ledger : Ledger ρ} {key : κ}

/-- A look-up finds nothing exactly when no row has the key. -/
lemma find?_eq_none_iff : ledger.find? key = none ↔ ledger.contains key = false := by
  rw [Bool.eq_false_iff, ne_eq, contains_iff, find?, List.find?_eq_none]
  simp

/-- What a look-up finds after a row has been entered. -/
lemma find?_insert {row : ρ} {h : ledger.contains (Keyed.key row) = false} {k : κ} :
    (ledger.insert row h).find? k = if k = Keyed.key row then some row else ledger.find? k := by
  by_cases same : k = Keyed.key row
  · subst same
    rw [if_pos rfl, find?_eq_some_iff]
    simp
  · rw [if_neg same]
    have differ : ¬ Keyed.key row = k := fun h => same h.symm
    simp [find?, List.find?_append, differ]

@[simp] lemma contains_insert {row : ρ} {h : ledger.contains (Keyed.key row) = false} {k : κ} :
    (ledger.insert row h).contains k = (ledger.contains k || decide (Keyed.key row = k)) := by
  simp [contains]

/-- What a look-up finds after the removal of rows by a test on their keys. -/
lemma find?_filter {keep : ρ → Bool} (test : κ → Bool)
    (h : ∀ row, keep row = test (Keyed.key row)) {k : κ} :
    (ledger.filter keep).find? k = if test k = true then ledger.find? k else none := by
  have keeps : keep = fun row => test (Keyed.key row) := funext h
  subst keeps
  simp only [find?, rows_filter, List.find?_filter]
  by_cases pass : test k = true
  · rw [if_pos pass]
    congr 1
    funext row
    by_cases same : Keyed.key row = k
    · simp [same, pass]
    · simp [same]
  · rw [if_neg pass, List.find?_eq_none]
    intro row _ both
    simp only [decide_eq_true_eq] at both
    exact pass (both.2 ▸ both.1)

end Ledger

/-! ### The keys of links and buckets -/

@[simp] lemma ComponentLink.key_eq (link : ComponentLink) :
    Keyed.key link = (link.problem, link.component) := rfl

@[simp] lemma ReleaseLink.key_eq (link : ReleaseLink) :
    Keyed.key link = (link.problem, link.release) := rfl

@[simp] lemma Bucket.key_eq (bucket : Bucket) :
    Keyed.key bucket = (bucket.report, bucket.release, bucket.start) := rfl

namespace Store

/-! ### Tables that may be absent -/

@[simp] lemma rowsOf_some {ρ : Type} [Identified ρ] (register : Register ρ) :
    rowsOf (some register) = register.rows := rfl

@[simp] lemma entriesOf_some {ρ κ : Type} [Keyed ρ κ] (ledger : Ledger ρ) :
    entriesOf (some ledger) = ledger.rows := rfl

@[simp] lemma refers_some {ρ : Type} [Identified ρ] (register : Register ρ) (id : Int) :
    refers (some register) id = register.contains id := rfl

/-- A reference leads to a row that has the id. -/
lemma refers_iff {ρ : Type} [Identified ρ] {register : Option (Register ρ)} {id : Int} :
    refers register id = true ↔ ∃ row ∈ rowsOf register, Identified.id row = id := by
  cases register with
  | none => simp [refers, rowsOf]
  | some register => exact Register.contains_iff

/-- A reference that leads to a row does not lead to the next id. -/
lemma nextId_not_referred {ρ : Type} [Identified ρ] {register : Option (Register ρ)}
    {table : Register ρ} (found : register = some table) :
    refers register table.nextId = false := by
  rw [found, refers_some]
  exact Register.contains_nextId

/-- The ids of the rows of a register ascend, also when it may be absent. -/
lemma pairwise_rowsOf {ρ : Type} [Identified ρ] (register : Option (Register ρ)) :
    (rowsOf register).Pairwise fun a b => Identified.id a < Identified.id b := by
  cases register with
  | none => exact .nil
  | some register => exact register.ascending

/-- The rows of a ledger have different keys, also when it may be absent. -/
lemma pairwise_entriesOf {ρ κ : Type} [Keyed ρ κ] (ledger : Option (Ledger ρ)) :
    (entriesOf ledger).Pairwise fun a b => Keyed.key a ≠ Keyed.key b := by
  cases ledger with
  | none => exact .nil
  | some ledger => exact ledger.distinct

end Store

end CrashTriage
