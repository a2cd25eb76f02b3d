/-!
# Registers

A register keeps rows that are known by an id, in ascending order of their ids. A new row takes the
id after the greatest one present, so the id of a deleted last row is given out again. Main
statements: the ids of a register ascend, hence differ, and looking a row up finds the one row
with that id. An update changes what a look-up of its id finds, and nothing else.
-/

namespace CrashTriage

/-- Rows that are known by an id. -/
class Identified (ρ : Type) where
  /-- The id of a row. -/
  id : ρ → Int

/-- Rows in ascending order of their ids. -/
structure Register (ρ : Type) [Identified ρ] where
  /-- The rows. -/
  rows : List ρ
  ascending : rows.Pairwise fun a b => Identified.id a < Identified.id b

namespace Register

variable {ρ : Type} [Identified ρ]

/-- The register without rows. -/
def empty : Register ρ := ⟨[], .nil⟩

/-- The row with a given id. -/
def find? (register : Register ρ) (id : Int) : Option ρ :=
  register.rows.find? fun row => Identified.id row = id

/-- Whether a row has a given id. -/
def contains (register : Register ρ) (id : Int) : Bool :=
  register.rows.any fun row => Identified.id row = id

/-- The id that the next new row takes. -/
def nextId (register : Register ρ) : Int :=
  match register.rows.getLast? with
  | none => 1
  | some row => Identified.id row + 1

theorem lt_nextId {register : Register ρ} {row : ρ} (h : row ∈ register.rows) :
    Identified.id row < register.nextId := by
  obtain ⟨rows, ascending⟩ := register
  rcases List.eq_nil_or_concat rows with rfl | ⟨front, last, shape⟩
  · simp at h
  · rw [List.concat_eq_append] at shape
    subst shape
    simp only [nextId, List.getLast?_append, List.getLast?_singleton, Option.some_or]
    rcases List.mem_append.1 h with h | h
    · have := (List.pairwise_append.1 ascending).2.2 row h last (by simp)
      omega
    · simp at h; subst h; omega

/-- The register with one more row, which has the next id. -/
def insert (register : Register ρ) (row : ρ) (h : Identified.id row = register.nextId) :
    Register ρ where
  rows := register.rows ++ [row]
  ascending := List.pairwise_append.2 ⟨register.ascending, List.pairwise_singleton _ _,
    fun a ha b hb => by simp at hb; subst hb; rw [h]; exact lt_nextId ha⟩

/-- The register after a change of its rows that leaves their ids alone. -/
def modify (register : Register ρ) (change : ρ → ρ)
    (h : ∀ row, Identified.id (change row) = Identified.id row) : Register ρ where
  rows := register.rows.map change
  ascending := List.pairwise_map.2 (by simpa only [h] using register.ascending)

/-- The register after a change of the row with a given id. -/
def update (register : Register ρ) (id : Int) (change : ρ → ρ)
    (h : ∀ row, Identified.id (change row) = Identified.id row) : Register ρ :=
  register.modify (fun row => if Identified.id row = id then change row else row) fun row => by
    split
    · exact h row
    · rfl

/-- The register with only the rows that pass a test. -/
def filter (register : Register ρ) (keep : ρ → Bool) : Register ρ where
  rows := register.rows.filter keep
  ascending := register.ascending.filter _

@[simp] theorem rows_empty : (empty : Register ρ).rows = [] := rfl

@[simp] theorem rows_insert (register : Register ρ) (row : ρ)
    (h : Identified.id row = register.nextId) :
    (register.insert row h).rows = register.rows ++ [row] := rfl

@[simp] theorem rows_modify (register : Register ρ) (change : ρ → ρ)
    (h : ∀ row, Identified.id (change row) = Identified.id row) :
    (register.modify change h).rows = register.rows.map change := rfl

@[simp] theorem rows_update (register : Register ρ) (id : Int) (change : ρ → ρ)
    (h : ∀ row, Identified.id (change row) = Identified.id row) :
    (register.update id change h).rows =
      register.rows.map fun row => if Identified.id row = id then change row else row := rfl

@[simp] theorem rows_filter (register : Register ρ) (keep : ρ → Bool) :
    (register.filter keep).rows = register.rows.filter keep := rfl

theorem contains_iff {register : Register ρ} {id : Int} :
    register.contains id = true ↔ ∃ row ∈ register.rows, Identified.id row = id := by
  simp [contains]

theorem find?_eq_some_iff {register : Register ρ} {id : Int} {row : ρ} :
    register.find? id = some row ↔ row ∈ register.rows ∧ Identified.id row = id := by
  obtain ⟨rows, ascending⟩ := register
  simp only [find?]
  induction rows with
  | nil => simp
  | cons first rest ih =>
    have tail := ih (List.pairwise_cons.1 ascending).2
    have apart := (List.pairwise_cons.1 ascending).1
    by_cases hid : Identified.id first = id
    · simp only [List.find?_cons, hid, decide_true, List.mem_cons, Option.some.injEq]
      constructor
      · rintro rfl; exact ⟨.inl rfl, hid⟩
      · rintro ⟨rfl | h, same⟩
        · rfl
        · have := apart row h; omega
    · simp only [List.find?_cons, hid, decide_false, List.mem_cons]
      rw [tail]
      constructor
      · rintro ⟨h, same⟩; exact ⟨.inr h, same⟩
      · rintro ⟨rfl | h, same⟩
        · exact absurd same hid
        · exact ⟨h, same⟩

theorem find?_update {register : Register ρ} {id k : Int} {change : ρ → ρ}
    {h : ∀ row, Identified.id (change row) = Identified.id row} :
    (register.update id change h).find? k =
      if k = id then (register.find? k).map change else register.find? k := by
  have keeps (row : ρ) :
      Identified.id (if Identified.id row = id then change row else row) = Identified.id row := by
    split
    · exact h row
    · rfl
  simp only [find?, rows_update, List.find?_map, Function.comp_def, keeps]
  cases found : register.rows.find? fun row => decide (Identified.id row = k) with
  | none => simp
  | some row =>
    have hk : Identified.id row = k := by simpa using List.find?_some found
    by_cases same : k = id <;> simp [hk, same]

end Register

end CrashTriage
