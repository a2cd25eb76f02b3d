/-!
# Splitting lists

The parts of a list between separators, and the two parts around the first separator. Main
statements: a separator between two lists splits them apart, and lists without separators are the
parts of what they are joined to.
-/

namespace CrashTriage

/-- The parts of a list between separators. -/
def splitOn {α : Type} [DecidableEq α] (separator : α) : List α → List (List α)
  | [] => [[]]
  | x :: rest =>
    if x = separator then [] :: splitOn separator rest
    else
      match splitOn separator rest with
      | [] => [[x]]
      | part :: parts => (x :: part) :: parts

/-- What comes before the first separator, and what comes after it. Without a separator nothing
comes after. -/
def splitFirst {α : Type} [DecidableEq α] (separator : α) (xs : List α) : List α × List α :=
  (xs.takeWhile (· ≠ separator), (xs.dropWhile (· ≠ separator)).drop 1)

section

variable {α : Type} [DecidableEq α]

theorem splitOn_ne_nil (separator : α) (xs : List α) : splitOn separator xs ≠ [] := by
  cases xs with
  | nil => simp [splitOn]
  | cons x rest =>
    simp only [splitOn]
    split
    · simp
    · split <;> simp

/-- A list without the separator is its only part. -/
theorem splitOn_eq_singleton {separator : α} {xs : List α} (h : separator ∉ xs) :
    splitOn separator xs = [xs] := by
  induction xs with
  | nil => rfl
  | cons x xs ih =>
    simp only [List.mem_cons, not_or] at h
    simp [splitOn, Ne.symm h.1, ih h.2]

/-- A separator between two lists splits them apart. -/
theorem splitOn_append_cons (separator : α) (xs ys : List α) :
    splitOn separator (xs ++ separator :: ys) = splitOn separator xs ++ splitOn separator ys := by
  induction xs with
  | nil => simp [splitOn]
  | cons x xs ih =>
    by_cases h : x = separator
    · simp [splitOn, h, ih]
    · simp only [List.cons_append, splitOn, h, if_false, ih]
      cases parts : splitOn separator xs with
      | nil => exact absurd parts (splitOn_ne_nil separator xs)
      | cons part rest => simp

/-- Lists without the separator are the parts of the list that they make up with separators. -/
theorem splitOn_intercalate {separator : α} {parts : List (List α)} (nonempty : parts ≠ [])
    (apart : ∀ part ∈ parts, separator ∉ part) :
    splitOn separator ([separator].intercalate parts) = parts := by
  induction parts with
  | nil => exact absurd rfl nonempty
  | cons first rest ih =>
    obtain ⟨alone, others⟩ := List.forall_mem_cons.1 apart
    cases rest with
    | nil => simpa [List.intercalate] using splitOn_eq_singleton alone
    | cons second rest =>
      have joined : [separator].intercalate (first :: second :: rest)
          = first ++ separator :: [separator].intercalate (second :: rest) := by
        simp [List.intercalate]
      rw [joined, splitOn_append_cons, splitOn_eq_singleton alone,
        ih (List.cons_ne_nil second rest) others]
      rfl

end

end CrashTriage
