import CrashTriage.Proofs.Sums
import CrashTriage.Ranking.Basic
import Mathlib.Algebra.Ring.Int.Defs

/-!
# Totals that can be read

A total is read when all of its tallies are exact and their sum fits in 64 bits. A query that lists
groups of tallies reads the total of every group that it lists, so when it succeeds, each row shows
the exact sum of its group.
-/

namespace CrashTriage

/-! ### One total -/

namespace Total

/-- A total is exact when its tallies are and their sum fits in 64 bits. -/
lemma ofTallies_eq_exact_iff {tallies : List Tally} {n : Int} :
    ofTallies tallies = .exact n ↔
      (∀ tally ∈ tallies, tally.isApproximate = false) ∧ n = exactSum tallies ∧
        Numeral.FitsInt64 (exactSum tallies) := by
  unfold ofTallies
  by_cases approximate : tallies.any Tally.isApproximate = true
  · rw [if_pos approximate]
    constructor
    · intro h
      cases h
    · intro h
      obtain ⟨tally, member, found⟩ := List.any_eq_true.1 approximate
      rw [h.1 tally member] at found
      cases found
  · have exact : ∀ tally ∈ tallies, tally.isApproximate = false := by
      intro tally member
      rw [Bool.eq_false_iff]
      intro found
      exact approximate (List.any_eq_true.2 ⟨tally, member, found⟩)
    rw [if_neg approximate]
    by_cases fits : Numeral.FitsInt64 (exactSum tallies)
    · rw [if_pos fits]
      constructor
      · intro h
        cases h
        exact ⟨exact, rfl, fits⟩
      · rintro ⟨-, rfl, -⟩
        rfl
    · rw [if_neg fits]
      constructor
      · intro h
        cases h
      · intro h
        exact absurd h.2.2 fits

/-- A total that is read is exact. -/
lemma read_eq_ok_iff {index : Nat} {column : String} {total : Total} {n : Int} :
    total.read index column = .ok n ↔ total = .exact n := by
  cases total <;> simp [read]

end Total

/-- What a positive tally holds exactly is positive. -/
lemma Tally.exactPart_pos {tally : Tally} (positive : tally.isPositive = true)
    (exact : tally.isApproximate = false) : 0 < tally.exactPart := by
  cases tally with
  | exact n => exact of_decide_eq_true positive
  | approximate x => cases exact

/-- The exact sum of tallies is the sum of what they hold exactly. -/
lemma exactSum_eq_sum (tallies : List Tally) :
    exactSum tallies = (tallies.map Tally.exactPart).sum := by
  induction tallies with
  | nil => rfl
  | cons tally rest ih => rw [exactSum, ih, List.map_cons, List.sum_cons]

/-- The exact sum of buckets splits by a test. -/
lemma exactSum_filter_add (test : Bucket → Bool) (buckets : List Bucket) :
    exactSum ((buckets.filter test).map Bucket.count)
        + exactSum ((buckets.filter (!test ·)).map Bucket.count)
      = exactSum (buckets.map Bucket.count) := by
  simp only [exactSum_eq_sum, List.map_map]
  exact sum_filter_add_sum_filter_not test buckets

/-- Exact tallies, as they are stored, are determined by the numbers that they hold. -/
lemma map_exactPart_of_exact {tallies : List Tally}
    (exact : ∀ tally ∈ tallies, tally.isApproximate = false) :
    tallies = (tallies.map Tally.exactPart).map Tally.exact := by
  induction tallies with
  | nil => rfl
  | cons tally rest ih =>
    have others := ih fun t member => exact t (List.mem_cons_of_mem tally member)
    have first := exact tally List.mem_cons_self
    cases tally with
    | exact n =>
      rw [List.map_cons, List.map_cons, ← others]
      rfl
    | approximate x => cases first

/-! ### The totals of groups -/

section
variable {α β ρ : Type}

/-- Values computed where they exist are the values of those elements that have one. -/
lemma filterMap_eq_map_filter {items : List α} {value? : α → Option β} {has : α → Bool}
    {value : α → β}
    (h : ∀ item ∈ items, value? item = if has item then some (value item) else none) :
    items.filterMap value? = (items.filter has).map value := by
  induction items with
  | nil => rfl
  | cons item rest ih =>
    have others := ih fun other member => h other (List.mem_cons_of_mem item member)
    have first := h item List.mem_cons_self
    cases here : has item with
    | true =>
      rw [here, if_pos rfl] at first
      rw [List.filterMap_cons_some first, List.filter_cons_of_pos here, List.map_cons, others]
    | false =>
      rw [here, if_neg Bool.false_ne_true] at first
      have skipped : ¬ has item = true := by
        rw [here]
        exact Bool.false_ne_true
      rw [List.filterMap_cons_none first, List.filter_cons_of_neg skipped, others]

/-- Groups without members have no total that overflows, so they need not be looked at. -/
lemma any_overflow (groups : List α) (own : α → List β) (tally : β → Tally) :
    ((groups.filter fun group => !(own group).isEmpty).map fun group =>
        (group, Total.ofTallies ((own group).map tally))).any (fun pair => pair.2 = .overflow)
      = groups.any fun group => Total.ofTallies ((own group).map tally) = .overflow := by
  rw [List.any_map, List.any_filter]
  congr 1
  funext group
  rw [Function.comp_apply]
  cases own group with
  | nil => rfl
  | cons member rest => exact Bool.true_and _

/-- When the totals of groups are read one after the other, each row shows the exact sum of its
group. -/
lemma read_totals (row : α → Int → ρ) {groups : List α} {own : α → List Tally} {index : Nat}
    {column : String} {rows : List ρ}
    (ok : ((groups.map fun group => (group, Total.ofTallies (own group))).mapM fun pair => do
      pure (row pair.1 (← pair.2.read index column))) = Except.ok rows) :
    rows = (groups.map fun group => row group (exactSum (own group))) ∧
      ∀ group ∈ groups, Total.ofTallies (own group) = .exact (exactSum (own group)) := by
  induction groups generalizing rows with
  | nil =>
    rw [List.map_nil, List.mapM_nil, pure_eq_ok_iff] at ok
    subst ok
    exact ⟨rfl, fun group member => absurd member List.not_mem_nil⟩
  | cons group rest ih =>
    rw [List.map_cons, List.mapM_cons, bind_eq_ok_iff] at ok
    obtain ⟨first, read, ok⟩ := ok
    obtain ⟨others, ran, ok⟩ := bind_eq_ok_iff.1 ok
    obtain ⟨n, total, shown⟩ := bind_eq_ok_iff.1 read
    have exact := Total.read_eq_ok_iff.1 total
    have sum : n = exactSum (own group) := (Total.ofTallies_eq_exact_iff.1 exact).2.1
    obtain ⟨shape, exacts⟩ := ih ran
    rw [sum] at exact shown
    rw [pure_eq_ok_iff] at ok shown
    constructor
    · rw [List.map_cons, ← ok, ← shown, ← shape]
    · intro g member
      rcases List.mem_cons.1 member with rfl | among
      · exact exact
      · exact exacts g among

/-- When the totals of all groups are exact, they can be read. -/
lemma read_totals_of_exact (row : α → Int → ρ) {groups : List α} {own : α → List Tally}
    (index : Nat) (column : String)
    (exact : ∀ group ∈ groups, Total.ofTallies (own group) = .exact (exactSum (own group))) :
    ((groups.map fun group => (group, Total.ofTallies (own group))).mapM fun pair => do
      pure (row pair.1 (← pair.2.read index column)))
      = Except.ok (groups.map fun group => row group (exactSum (own group))) := by
  induction groups with
  | nil => rfl
  | cons group rest ih =>
    have first := exact group List.mem_cons_self
    have others := ih fun g member => exact g (List.mem_cons_of_mem group member)
    rw [List.map_cons, List.mapM_cons, others, first]
    rfl

end

end CrashTriage
