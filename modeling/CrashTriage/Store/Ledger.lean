/-!
# Ledgers

A ledger keeps rows that are known by a key made of their own columns, in the order in which they
were entered. Main statements: the keys of a ledger differ, so looking a row up finds the one row
with that key. An update changes what a look-up of its key finds, and nothing else.
-/

namespace CrashTriage

/-- Rows that are known by a key. -/
class Keyed (ρ : Type) (κ : outParam Type) where
  /-- The key of a row. -/
  key : ρ → κ

/-- Rows with different keys. -/
structure Ledger (ρ : Type) {κ : Type} [Keyed ρ κ] where
  /-- The rows, the oldest first. -/
  rows : List ρ
  distinct : rows.Pairwise fun a b => Keyed.key a ≠ Keyed.key b

namespace Ledger

variable {ρ κ : Type} [Keyed ρ κ] [DecidableEq κ]

/-- The ledger without rows. -/
def empty : Ledger ρ := ⟨[], .nil⟩

/-- The row with a given key. -/
def find? (ledger : Ledger ρ) (key : κ) : Option ρ :=
  ledger.rows.find? fun row => Keyed.key row = key

/-- Whether a row has a given key. -/
def contains (ledger : Ledger ρ) (key : κ) : Bool :=
  ledger.rows.any fun row => Keyed.key row = key

/-- The ledger with one more row at its end, whose key is new. -/
def insert (ledger : Ledger ρ) (row : ρ) (h : ledger.contains (Keyed.key row) = false) :
    Ledger ρ where
  rows := ledger.rows ++ [row]
  distinct := List.pairwise_append.2 ⟨ledger.distinct, List.pairwise_singleton _ _,
    fun a ha b hb => by
      simp at hb; subst hb
      intro same
      exact absurd h (by simp [contains]; exact ⟨a, ha, same⟩)⟩

/-- The ledger after a change of its rows that leaves their keys alone. -/
def modify (ledger : Ledger ρ) (change : ρ → ρ)
    (h : ∀ row, (Keyed.key (change row) : κ) = Keyed.key row) : Ledger ρ where
  rows := ledger.rows.map change
  distinct := List.pairwise_map.2 (by simpa only [h] using ledger.distinct)

/-- The ledger after a change of the row with a given key. -/
def update (ledger : Ledger ρ) (key : κ) (change : ρ → ρ)
    (h : ∀ row, (Keyed.key (change row) : κ) = Keyed.key row) : Ledger ρ :=
  ledger.modify (fun row => if Keyed.key row = key then change row else row) fun row => by
    split
    · exact h row
    · rfl

/-- The ledger with only the rows that pass a test. -/
def filter (ledger : Ledger ρ) (keep : ρ → Bool) : Ledger ρ where
  rows := ledger.rows.filter keep
  distinct := ledger.distinct.filter _

omit [DecidableEq κ] in
@[simp] theorem rows_empty : (empty : Ledger ρ).rows = [] := rfl

@[simp] theorem rows_insert (ledger : Ledger ρ) (row : ρ)
    (h : ledger.contains (Keyed.key row) = false) :
    (ledger.insert row h).rows = ledger.rows ++ [row] := rfl

omit [DecidableEq κ] in
@[simp] theorem rows_modify (ledger : Ledger ρ) (change : ρ → ρ)
    (h : ∀ row, (Keyed.key (change row) : κ) = Keyed.key row) :
    (ledger.modify change h).rows = ledger.rows.map change := rfl

@[simp] theorem rows_update (ledger : Ledger ρ) (key : κ) (change : ρ → ρ)
    (h : ∀ row, (Keyed.key (change row) : κ) = Keyed.key row) :
    (ledger.update key change h).rows =
      ledger.rows.map fun row => if Keyed.key row = key then change row else row := rfl

omit [DecidableEq κ] in
@[simp] theorem rows_filter (ledger : Ledger ρ) (keep : ρ → Bool) :
    (ledger.filter keep).rows = ledger.rows.filter keep := rfl

theorem contains_iff {ledger : Ledger ρ} {key : κ} :
    ledger.contains key = true ↔ ∃ row ∈ ledger.rows, Keyed.key row = key := by
  simp [contains]

theorem find?_eq_some_iff {ledger : Ledger ρ} {key : κ} {row : ρ} :
    ledger.find? key = some row ↔ row ∈ ledger.rows ∧ Keyed.key row = key := by
  obtain ⟨rows, distinct⟩ := ledger
  simp only [find?]
  induction rows with
  | nil => simp
  | cons first rest ih =>
    have tail := ih (List.pairwise_cons.1 distinct).2
    have apart := (List.pairwise_cons.1 distinct).1
    by_cases hkey : Keyed.key first = key
    · simp only [List.find?_cons, hkey, decide_true, List.mem_cons, Option.some.injEq]
      constructor
      · rintro rfl; exact ⟨.inl rfl, hkey⟩
      · rintro ⟨rfl | h, same⟩
        · rfl
        · exact absurd (hkey.trans same.symm) (apart row h)
    · simp only [List.find?_cons, hkey, decide_false, List.mem_cons]
      rw [tail]
      constructor
      · rintro ⟨h, same⟩; exact ⟨.inr h, same⟩
      · rintro ⟨rfl | h, same⟩
        · exact absurd same hkey
        · exact ⟨h, same⟩

theorem find?_update {ledger : Ledger ρ} {key k : κ} {change : ρ → ρ}
    {h : ∀ row, (Keyed.key (change row) : κ) = Keyed.key row} :
    (ledger.update key change h).find? k =
      if k = key then (ledger.find? k).map change else ledger.find? k := by
  have keeps (row : ρ) :
      Keyed.key (if Keyed.key row = key then change row else row) = Keyed.key row := by
    split
    · exact h row
    · rfl
  simp only [find?, rows_update, List.find?_map, Function.comp_def, keeps]
  cases found : ledger.rows.find? fun row => decide (Keyed.key row = k) with
  | none => simp
  | some row =>
    have hk : Keyed.key row = k := by simpa using List.find?_some found
    by_cases same : k = key <;> simp [hk, same]

end Ledger

end CrashTriage
