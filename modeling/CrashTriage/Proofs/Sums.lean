import CrashTriage.Proofs.Recording
import Mathlib.Algebra.Ring.Int.Defs
import Mathlib.Data.List.Induction

/-!
# Sums of counts

Counts that are added one by one to a tally make up their exact sum as long as the tally stays
exact, and it does so for positive counts whose sum fits in 64 bits. Sums over groups of items add
up to the sum over all items when every item falls into one group.
-/

namespace CrashTriage

/-! ### Counts that are added one by one -/

namespace Tally

/-- The tally after counts have been added one by one to a tally that may be absent. -/
def afterAll (start : Option Tally) (counts : List Int) : Option Tally :=
  counts.foldl (fun tally count => some (Tally.raise count tally)) start

lemma afterAll_snoc (start : Option Tally) (counts : List Int) (count : Int) :
    afterAll start (counts ++ [count]) = some (Tally.raise count (afterAll start counts)) := by
  simp [afterAll]

/-- A tally that is exact after an addition is the exact sum, and the sum fits in 64 bits. -/
lemma eq_of_raise_eq_exact {tally : Option Tally} {count n : Int}
    (h : Tally.raise count tally = .exact n) :
    (tally = none ∧ n = count) ∨
      ∃ m, tally = some (.exact m) ∧ n = m + count ∧ Numeral.FitsInt64 n := by
  cases tally with
  | none =>
    cases h
    exact .inl ⟨rfl, rfl⟩
  | some tally =>
    cases tally with
    | exact m =>
      simp only [raise, add] at h
      split at h
      · rename_i fits
        cases h
        exact .inr ⟨m, rfl, rfl, fits⟩
      · cases h
    | approximate x => cases h

/-- There is no tally exactly when there was none at the start and nothing has been added. -/
lemma afterAll_eq_none_iff {start : Option Tally} {counts : List Int} :
    afterAll start counts = none ↔ start = none ∧ counts = [] := by
  induction counts using List.reverseRecOn with
  | nil => simp [afterAll]
  | append_singleton counts count _ => simp [afterAll_snoc]

/-- A tally that is still exact after additions to an absent one or to zero is the sum of what was
added. -/
lemma eq_sum_of_afterAll_eq_exact {start : Option Tally}
    (zero : start = none ∨ start = some (.exact 0)) {counts : List Int} {n : Int}
    (h : afterAll start counts = some (.exact n)) : n = counts.sum := by
  induction counts using List.reverseRecOn generalizing n with
  | nil =>
    rcases zero with rfl | rfl
    · cases h
    · cases h
      rfl
  | append_singleton counts count ih =>
    rw [afterAll_snoc, Option.some.injEq] at h
    rw [List.sum_append_int, List.sum_singleton]
    rcases eq_of_raise_eq_exact h with ⟨absent, rfl⟩ | ⟨m, before, rfl, -⟩
    · obtain ⟨-, rfl⟩ := afterAll_eq_none_iff.1 absent
      simp
    · rw [ih before]

/-- A tally that is still exact after additions to zero fits in 64 bits. -/
lemma fits_of_afterAll_eq_exact {counts : List Int} {n : Int}
    (h : afterAll (some (.exact 0)) counts = some (.exact n)) : Numeral.FitsInt64 n := by
  induction counts using List.reverseRecOn with
  | nil =>
    cases h
    decide
  | append_singleton front count _ =>
    rw [afterAll_snoc, Option.some.injEq] at h
    rcases eq_of_raise_eq_exact h with ⟨absent, -⟩ | ⟨m, -, -, fits⟩
    · cases (afterAll_eq_none_iff.1 absent).1
    · exact fits

/-- Positive counts have a sum that is not negative. -/
lemma sum_nonneg_of_pos {counts : List Int} (positive : ∀ count ∈ counts, 0 < count) :
    0 ≤ counts.sum := by
  induction counts with
  | nil => exact Int.le_refl 0
  | cons count rest ih =>
    have first := positive count List.mem_cons_self
    have others := ih fun c member => positive c (List.mem_cons_of_mem count member)
    rw [List.sum_cons]
    omega

/-- Positive counts whose sum fits in 64 bits are added up exactly. -/
lemma afterAll_of_sum_le {counts : List Int} (positive : ∀ count ∈ counts, 0 < count)
    (fits : counts.sum ≤ Numeral.maxInt64) (nonempty : counts ≠ []) :
    afterAll none counts = some (.exact counts.sum) := by
  induction counts using List.reverseRecOn with
  | nil => exact absurd rfl nonempty
  | append_singleton counts count ih =>
    have above : 0 < count := positive count (by simp)
    have others (c : Int) (member : c ∈ counts) : 0 < c :=
      positive c (List.mem_append_left _ member)
    have low := sum_nonneg_of_pos others
    rw [List.sum_append_int, List.sum_singleton] at fits ⊢
    rw [afterAll_snoc]
    by_cases first : counts = []
    · subst first
      simp [afterAll, raise]
    · have inside : Numeral.FitsInt64 (counts.sum + count) := by
        unfold Numeral.FitsInt64 Numeral.minInt64
        omega
      rw [ih others (by omega) first]
      simp only [raise, add, if_pos inside]

end Tally

/-! ### Regrouping -/

section
variable {α β : Type} {weight : α → Int}

/-- A sum splits by a test. -/
lemma sum_filter_add_sum_filter_not (test : α → Bool) (items : List α) :
    ((items.filter test).map weight).sum + ((items.filter (!test ·)).map weight).sum
      = (items.map weight).sum := by
  induction items with
  | nil => rfl
  | cons item rest ih =>
    cases pass : test item <;> simp only [List.filter_cons, pass, Bool.not_true, Bool.not_false,
      if_true, List.map_cons, List.sum_cons, Bool.false_eq_true, if_false] <;> omega

/-- What passes a test adds up to no more than all of it, if nothing is negative. -/
lemma sum_filter_le (test : α → Bool) {items : List α}
    (positive : ∀ item ∈ items, 0 < weight item) :
    ((items.filter test).map weight).sum ≤ (items.map weight).sum := by
  have rest : 0 ≤ ((items.filter (!test ·)).map weight).sum := by
    refine Tally.sum_nonneg_of_pos fun n member => ?_
    obtain ⟨item, inside, rfl⟩ := List.mem_map.1 member
    exact positive item (List.mem_filter.1 inside).1
  rw [← sum_filter_add_sum_filter_not test items]
  omega

/-- When every item falls into exactly one group, the sums of the groups add up to the sum of all
items. -/
lemma sum_regroup (falls : β → α → Bool) {groups : List β} {items : List α}
    (apart : groups.Pairwise fun a b => ∀ item ∈ items, falls a item = true → falls b item = false)
    (cover : ∀ item ∈ items, ∃ group ∈ groups, falls group item = true) :
    (groups.map fun group => ((items.filter (falls group)).map weight).sum).sum
      = (items.map weight).sum := by
  induction groups generalizing items with
  | nil =>
    cases items with
    | nil => rfl
    | cons item rest =>
      obtain ⟨group, member, -⟩ := cover item List.mem_cons_self
      cases member
  | cons group rest ih =>
    obtain ⟨first, others⟩ := List.pairwise_cons.1 apart
    -- the other groups take their items from those that do not fall into the first one
    have kept (other : β) (member : other ∈ rest) : items.filter (falls other)
        = (items.filter (!falls group ·)).filter (falls other) := by
      rw [List.filter_filter]
      refine List.filter_congr fun item inside => ?_
      cases here : falls group item with
      | true => rw [first other member item inside here, Bool.false_and]
      | false => simp
    have covered (item : α) (inside : item ∈ items.filter (!falls group ·)) :
        ∃ other ∈ rest, falls other item = true := by
      obtain ⟨member, outside⟩ := List.mem_filter.1 inside
      obtain ⟨other, among, here⟩ := cover item member
      rcases List.mem_cons.1 among with rfl | among
      · simp [here] at outside
      · exact ⟨other, among, here⟩
    have rest_sum := ih
      (others.imp fun h item inside => h item (List.mem_filter.1 inside).1) covered
    have same : (rest.map fun other => ((items.filter (falls other)).map weight).sum)
        = rest.map fun other =>
          (((items.filter (!falls group ·)).filter (falls other)).map weight).sum :=
      List.map_congr_left fun other member => by rw [kept other member]
    rw [List.map_cons, List.sum_cons, same, rest_sum, sum_filter_add_sum_filter_not]

end

end CrashTriage
