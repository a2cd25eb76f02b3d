import CrashTriage.Proofs.ComponentFilter
import Mathlib.Data.List.Nodup

/-!
# The order by average

The order by average leaves nothing to chance: rank, count and id together tell any two rows of
different problems apart, so rows that are in order are determined by which rows they are. Hence
the result does not depend on the order in which the rows come, and when they come in order of count
a stable sort by rank alone gives the same: where ranks are equal it keeps to that order.
-/

namespace CrashTriage

/-! ### Stable sorting -/

/-- A sort keeps members of equal rank in the order in which they came. -/
lemma pairwise_mergeSort_of_pairwise {α : Type} {le : α → α → Bool} {before : α → α → Prop}
    (trans : ∀ a b c, le a b = true → le b c = true → le a c = true)
    (total : ∀ a b, (le a b || le b a) = true) {rows : List α} (ordered : rows.Pairwise before) :
    (rows.mergeSort le).Pairwise fun a b => le a b = true ∧ (le b a = true → before a b) := by
  induction rows with
  | nil =>
    rw [List.mergeSort_nil]
    exact .nil
  | cons row rest ih =>
    obtain ⟨front, back, sorted, others, above, below⟩ := exists_place le trans total row rest
    obtain ⟨first, later⟩ := List.pairwise_cons.1 ordered
    have within := ih later
    rw [others, List.pairwise_append] at within
    obtain ⟨inFront, inBack, across⟩ := within
    have member (b : α) (inside : b ∈ back) : b ∈ rest := by
      have among : b ∈ rest.mergeSort le := by
        rw [others]
        exact List.mem_append_right front inside
      exact List.mem_mergeSort.1 among
    rw [sorted, List.pairwise_append, List.pairwise_cons]
    refine ⟨inFront, ⟨fun b inside => ⟨below b inside, fun _ => first b (member b inside)⟩, inBack⟩,
      fun a inside b after => ?_⟩
    rcases List.mem_cons.1 after with rfl | after
    · -- the new row comes strictly after those in front of it
      have strict := above a inside
      have either := total a b
      rw [strict, Bool.or_false] at either
      refine ⟨either, fun reverse => ?_⟩
      rw [strict] at reverse
      cases reverse
    · exact across a inside b after

namespace RankedProblem

/-- Whether a row comes before another by rank alone, or stands beside it. -/
def rankAloneLE (a b : RankedProblem) : Bool := Decimal.place b.rank ≤ Decimal.place a.rank

lemma rankAloneLE_trans (a b c : RankedProblem) (hab : a.rankAloneLE b = true)
    (hbc : b.rankAloneLE c = true) : a.rankAloneLE c = true := by
  simp only [rankAloneLE, decide_eq_true_eq] at *
  omega

lemma rankAloneLE_total (a b : RankedProblem) : (a.rankAloneLE b || b.rankAloneLE a) = true := by
  simp only [rankAloneLE, Bool.or_eq_true, decide_eq_true_eq]
  omega

end RankedProblem

/-! ### Rows in order -/

section
variable {last : Date} {rows rows' : List RankedProblem}

/-- Rows of different problems are determined by which they are when they are in order. -/
lemma eq_of_ordered (distinct : (rows.map fun row => row.problem.id).Nodup)
    (same : rows.Perm rows') (ordered : rows.Pairwise fun a b => a.rankLE b = true)
    (ordered' : rows'.Pairwise fun a b => a.rankLE b = true) : rows = rows' := by
  refine List.Perm.eq_of_pairwise ?_ ordered ordered' same
  intro a b here there before after
  rw [RankedProblem.rankLE_iff, RankedProblem.countLE_iff] at before after
  have id : a.problem.id = b.problem.id := by omega
  exact List.inj_on_of_nodup_map distinct here (same.mem_iff.2 there) id

/-- Whatever the order in which rows of different problems come, they are put in the same order. -/
lemma prioritize_eq_of_perm (distinct : (rows.map fun row => row.problem.id).Nodup)
    (same : rows'.Perm rows) : prioritize last rows' = prioritize last rows := by
  have averaged := (prioritize_perm_averages last rows').trans
    (((same.filter _).map _).trans (prioritize_perm_averages last rows).symm)
  exact (eq_of_ordered (nodup_prioritize last distinct) averaged.symm
    (pairwise_prioritize last rows) (pairwise_prioritize last rows')).symm

/-- Rows in order of count are put in order by a stable sort by rank alone. -/
lemma prioritize_eq_mergeSort (distinct : (rows.map fun row => row.problem.id).Nodup)
    (ordered : rows.Pairwise fun a b => a.countLE b = true) :
    prioritize last rows = (averages last rows).mergeSort RankedProblem.rankAloneLE := by
  have inCount : (averages last rows).Pairwise fun a b => a.countLE b = true :=
    List.pairwise_map.2 (ordered.filter _)
  have stable := pairwise_mergeSort_of_pairwise RankedProblem.rankAloneLE_trans
    RankedProblem.rankAloneLE_total inCount
  refine eq_of_ordered (nodup_prioritize last distinct) ((prioritize_perm_averages last rows).trans
    (List.mergeSort_perm _ _).symm) (pairwise_prioritize last rows) (stable.imp ?_)
  rintro a b ⟨greater, tie⟩
  unfold RankedProblem.rankAloneLE at greater tie
  rw [decide_eq_true_iff] at greater tie
  rw [RankedProblem.rankLE_iff]
  rcases Int.lt_or_eq_of_le greater with strict | same
  · exact .inl strict
  · exact .inr ⟨same.symm, tie (Int.le_of_eq same.symm)⟩

end

/-- The order by average is canonical. For rows of different problems, whatever their dates and
counts, it shows the rows with an observed month, each once, with its problem and count as they were
and its rank the quotient of the count by the number of observed months. These are in strict order:
the greatest rank first, equal ranks by count, the greatest first, and then by ascending id. The
result is the same for every order of the rows, and for rows in order of count and id it is that of
a stable sort by rank alone. -/
theorem order_by_average_is_canonical (last : Date) (rows : List RankedProblem)
    (distinct : (rows.map fun row => row.problem.id).Nodup) :
    (prioritize last rows).Perm
      ((rows.filter fun row => 1 ≤ last.observedMonths row.problem.first).map fun row =>
        ⟨row.problem, row.count,
          Float.ofInt row.count / Float.ofInt (last.observedMonths row.problem.first)⟩) ∧
    ((prioritize last rows).map fun row => row.problem.id).Nodup ∧
    ((prioritize last rows).Pairwise fun a b =>
      Decimal.place b.rank < Decimal.place a.rank ∨ (Decimal.place a.rank = Decimal.place b.rank ∧
        (b.count < a.count ∨ (a.count = b.count ∧ a.problem.id < b.problem.id)))) ∧
    (∀ rows', rows'.Perm rows → prioritize last rows' = prioritize last rows) ∧
    ((rows.Pairwise fun a b =>
        b.count < a.count ∨ (a.count = b.count ∧ a.problem.id < b.problem.id)) →
      prioritize last rows =
        ((rows.filter fun row => 1 ≤ last.observedMonths row.problem.first).map fun row =>
          ⟨row.problem, row.count,
            Float.ofInt row.count / Float.ofInt (last.observedMonths row.problem.first)⟩).mergeSort
          fun a b => Decimal.place b.rank ≤ Decimal.place a.rank) := by
  refine ⟨prioritize_perm_averages last rows, nodup_prioritize last distinct,
    strict_prioritize last distinct, ?_, ?_⟩
  · intro rows' same
    exact prioritize_eq_of_perm distinct same
  · intro ordered
    refine prioritize_eq_mergeSort distinct (ordered.imp fun before => ?_)
    rw [RankedProblem.countLE_iff]
    omega

namespace Store

/-- Rows of three problems in order of count. The first two have the same count and the same first
occurrence, and the third occurred first after New Year. -/
def threeRows : List RankedProblem :=
  [.ofCount ⟨2, newYearsEve, newYearsDay⟩ 7, .ofCount ⟨5, newYearsEve, newYearsEve⟩ 7,
    .ofCount ⟨1, newYearsMonday, newYearsMonday⟩ 6]

/-- At New Year the first two rows are shown by id, in whichever order the three come. -/
theorem order_by_average_of_threeRows :
    (threeRows.map fun row => row.problem.id).Nodup ∧
      (threeRows.Pairwise fun a b =>
        b.count < a.count ∨ (a.count = b.count ∧ a.problem.id < b.problem.id)) ∧
      threeRows.reverse.Perm threeRows ∧
      prioritize newYearsDay threeRows.reverse =
        [⟨⟨2, newYearsEve, newYearsDay⟩, 7, Float.ofInt 7 / Float.ofInt 1⟩,
          ⟨⟨5, newYearsEve, newYearsEve⟩, 7, Float.ofInt 7 / Float.ofInt 1⟩] := by
  have distinct : (threeRows.map fun row => row.problem.id).Nodup := by decide
  have inCount : threeRows.Pairwise fun a b =>
      b.count < a.count ∨ (a.count = b.count ∧ a.problem.id < b.problem.id) := by
    decide
  have reversed : threeRows.reverse.Perm threeRows := List.reverse_perm threeRows
  obtain ⟨-, -, -, same, stable⟩ := order_by_average_is_canonical newYearsDay threeRows distinct
  refine ⟨distinct, inCount, reversed, ?_⟩
  rw [same _ reversed, stable inCount]
  -- the ranks are equal, so a sort by rank alone moves nothing
  refine List.mergeSort_of_pairwise (List.pairwise_pair.2 ?_)
  exact decide_eq_true (Int.le_refl _)

end Store

end CrashTriage
