import CrashTriage.Proofs.Statements
import CrashTriage.Ranking.Basic
import Mathlib.Algebra.BigOperators.Group.List.Basic
import Mathlib.Algebra.GroupWithZero.Nat
import Mathlib.Data.List.TakeWhile

/-!
# Queries within the limits

A query fits into a statement when not too many values are bound to it and its clauses are not
nested too deep. Every clause nests the conjunction one deeper, up to the first clause that never
holds, and so do the two joins if there is no such clause. A query that is nested deep enough to
fail does so whatever is bound to it; any other query is read exactly when its values can be bound.
-/

namespace CrashTriage

/-- Whether a clause is a list without members, which never holds. -/
def Clause.isNever : Clause → Bool
  | .oneOf _ [] => true
  | _ => false

lemma Clause.isNever_oneOf (column : Column) (ids : List Int) :
    (Clause.oneOf column ids).isNever = ids.isEmpty := by
  cases ids <;> rfl

/-- The number of clauses before the first one that never holds. -/
def leading (clauses : List Clause) : Nat := (clauses.takeWhile (!Clause.isNever ·)).length

/-- The number of values that are bound to clauses. -/
def boundTo (clauses : List Clause) : Nat := (clauses.map Clause.bound).sum

/-- The conjunction of clauses. -/
def conjunctionOf (clauses : List Clause) : Conjunction :=
  if clauses.any Clause.isNever then .never
  else if clauses.isEmpty then .empty
  else .nested (clauses.length + 2)

section
variable {clause : Clause} {clauses : List Clause}

lemma leading_cons_of_isNever (never : clause.isNever = true) :
    leading (clause :: clauses) = 0 := by
  simp [leading, never]

lemma leading_cons (holds : clause.isNever = false) :
    leading (clause :: clauses) = leading clauses + 1 := by
  simp [leading, holds]

lemma leading_le_length (clauses : List Clause) : leading clauses ≤ clauses.length :=
  (List.takeWhile_prefix _).length_le

/-- Where every clause may hold, all of them lead. -/
lemma leading_eq_length (hold : clauses.any Clause.isNever = false) :
    leading clauses = clauses.length := by
  have all : ∀ clause ∈ clauses, (!Clause.isNever clause) = true := by simpa using hold
  rw [leading, List.takeWhile_eq_self_iff.2 all]

lemma leading_congr {clauses' : List Clause}
    (same : clauses.map Clause.isNever = clauses'.map Clause.isNever) :
    leading clauses = leading clauses' := by
  have counted (list : List Clause) :
      leading list = ((list.map Clause.isNever).takeWhile (!·)).length := by
    rw [List.takeWhile_map, List.length_map]
    rfl
  rw [counted, counted, same]

lemma conjunctionOf_congr {clauses' : List Clause}
    (same : clauses.map Clause.isNever = clauses'.map Clause.isNever) :
    conjunctionOf clauses = conjunctionOf clauses' := by
  have read (list : List Clause) : conjunctionOf list
      = if (list.map Clause.isNever).any id then .never
        else if (list.map Clause.isNever).isEmpty then .empty
        else .nested ((list.map Clause.isNever).length + 2) := by
    rw [List.any_map, List.isEmpty_map, List.length_map]
    rfl
  rw [read, read, same]

/-- Lists with the same members are empty together. -/
lemma isEmpty_congr {ids ids' : List Int} (same : ∀ id, id ∈ ids ↔ id ∈ ids') :
    ids.isEmpty = ids'.isEmpty := by
  rw [Bool.eq_iff_iff, List.isEmpty_iff, List.isEmpty_iff, List.eq_nil_iff_forall_not_mem,
    List.eq_nil_iff_forall_not_mem]
  exact forall_congr' fun id => not_congr (same id)

lemma boundTo_cons : boundTo (clause :: clauses) = clause.bound + boundTo clauses := by
  rw [boundTo, List.map_cons, List.sum_cons, boundTo]

end

/-! ### Reading clauses -/

namespace Conjunction

variable {clause : Clause}

lemma and_of_isNever (never : clause.isNever = true) (conjunction : Conjunction) :
    conjunction.and clause = .never := by
  unfold Clause.isNever at never
  split at never
  · cases conjunction <;> rfl
  · cases never

lemma and_oneOf_congr {column : Column} {ids ids' : List Int} (same : ids.isEmpty = ids'.isEmpty)
    (conjunction : Conjunction) :
    conjunction.and (.oneOf column ids) = conjunction.and (.oneOf column ids') := by
  cases ids with
  | nil =>
    rw [List.isEmpty_iff.1 same.symm]
  | cons id rest =>
    cases ids' with
    | nil => cases same
    | cons id' rest' => cases conjunction <;> rfl

/-- A constant stays one. -/
lemma never_and (clause : Clause) : never.and clause = .never := by
  unfold Conjunction.and
  split <;> simp_all

lemma empty_and (holds : clause.isNever = false) : empty.and clause = .nested 3 := by
  unfold Conjunction.and
  split <;> simp_all [Clause.isNever]

lemma nested_and (holds : clause.isNever = false) (depth : Nat) :
    (nested depth).and clause = .nested (depth + 1) := by
  unfold Conjunction.and
  split <;> simp_all [Clause.isNever]

end Conjunction

namespace Reading

variable {reading : Reading} {bound depth : Nat} {clauses : List Clause}

/-- A clause that is not nested too deep is read when its values can be bound. -/
lemma clause_of_depth {clause : Clause}
    (fits : (reading.conjunction.and clause).depth ≤ maxDepth) :
    reading.clause clause = if reading.bound + clause.bound ≤ maxBound
      then .ok (reading.next clause) else .error .tooManyValues := by
  have shallow : nestable (reading.next clause).conjunction.depth = .ok () :=
    nestable_eq_ok_iff.2 fits
  unfold Reading.clause
  simp only [shallow]
  unfold bindable next
  cases clause <;> dsimp only <;> split <;> rfl

/-- A list is read by its length alone. -/
lemma clause_oneOf_congr {column : Column} {ids ids' : List Int} (same : ids.length = ids'.length)
    (reading : Reading) :
    reading.clause (.oneOf column ids) = reading.clause (.oneOf column ids') := by
  have empty : ids.isEmpty = ids'.isEmpty := by
    rw [Bool.eq_iff_iff, List.isEmpty_iff_length_eq_zero, List.isEmpty_iff_length_eq_zero, same]
  have after : reading.next (.oneOf column ids) = reading.next (.oneOf column ids') := by
    unfold next
    rw [Conjunction.and_oneOf_congr empty, Clause.bound, Clause.bound, same]
  unfold Reading.clause
  simp only [after]

/-- A clause that is nested too deep is not read. -/
lemma exists_clause_eq_error {clause : Clause}
    (deep : maxDepth < (reading.conjunction.and clause).depth) :
    ∃ failure, reading.clause clause = .error failure ∧
      (reading.bound + clause.bound ≤ maxBound → failure = .tooDeep) := by
  have exceeds : nestable (reading.next clause).conjunction.depth = .error .tooDeep :=
    if_neg (Nat.not_le.2 deep)
  unfold Reading.clause
  simp only [exceeds]
  cases clause with
  | compare column comparison operand => exact ⟨_, rfl, fun _ => rfl⟩
  | oneOf column values =>
    unfold bindable next
    dsimp only
    split
    · exact ⟨_, rfl, fun _ => rfl⟩
    · rename_i many
      exact ⟨_, rfl, fun few => absurd few many⟩

/-- Clauses are read one by one as long as their values can be bound. -/
lemma foldlM_cons_of_depth {clause : Clause} {after : Except Failure Reading}
    (fits : (reading.conjunction.and clause).depth ≤ maxDepth)
    (rest : reading.bound + clause.bound ≤ maxBound →
      clauses.foldlM Reading.clause (reading.next clause)
        = if reading.bound + clause.bound + boundTo clauses ≤ maxBound
          then after else .error .tooManyValues) :
    (clause :: clauses).foldlM Reading.clause reading
      = if reading.bound + boundTo (clause :: clauses) ≤ maxBound
        then after else .error .tooManyValues := by
  rw [List.foldlM_cons, clause_of_depth fits, boundTo_cons, ← Nat.add_assoc]
  by_cases here : reading.bound + clause.bound ≤ maxBound
  · rw [if_pos here]
    exact rest here
  · rw [if_neg here, if_neg fun all => here (by omega)]
    rfl

/-- After a clause that never holds, the values alone matter. -/
lemma foldlM_never (here : bound ≤ maxBound) :
    clauses.foldlM Reading.clause ⟨bound, .never⟩
      = if bound + boundTo clauses ≤ maxBound
        then .ok ⟨bound + boundTo clauses, .never⟩ else .error .tooManyValues := by
  induction clauses generalizing bound with
  | nil =>
    rw [if_pos (by simpa [boundTo] using here)]
    rfl
  | cons clause rest ih =>
    have constant : Conjunction.never.and clause = .never := Conjunction.never_and clause
    refine foldlM_cons_of_depth (by simp [constant, Conjunction.depth, maxDepth]) fun more => ?_
    rw [next, constant, ih more, boundTo_cons, Nat.add_assoc bound]

/-- Clauses that are nested no deeper than a statement takes are read when their values can be
bound. -/
lemma foldlM_nested (here : bound ≤ maxBound) (shallow : depth + leading clauses ≤ maxDepth) :
    clauses.foldlM Reading.clause ⟨bound, .nested depth⟩
      = if bound + boundTo clauses ≤ maxBound
        then .ok ⟨bound + boundTo clauses,
          if clauses.any Clause.isNever then .never else .nested (depth + clauses.length)⟩
        else .error .tooManyValues := by
  induction clauses generalizing bound depth with
  | nil =>
    rw [if_pos (by simpa [boundTo] using here)]
    rfl
  | cons clause rest ih =>
    cases never : clause.isNever with
    | true =>
      have constant := Conjunction.and_of_isNever never (.nested depth)
      refine foldlM_cons_of_depth (by simp [constant, Conjunction.depth, maxDepth]) fun more => ?_
      rw [next, constant, foldlM_never more, List.any_cons, never, boundTo_cons,
        Nat.add_assoc bound]
      rfl
    | false =>
      have deeper := Conjunction.nested_and never depth
      rw [leading_cons never] at shallow
      refine foldlM_cons_of_depth ?_ fun more => ?_
      · rw [deeper]
        have first : depth + 1 ≤ maxDepth := by omega
        exact first
      · rw [next, deeper, ih more (by omega), List.any_cons, never, boundTo_cons,
          Nat.add_assoc bound, Bool.false_or, List.length_cons, Nat.add_comm rest.length,
          Nat.add_assoc depth]

/-- Clauses that are nested deeper than a statement takes are not read, and it is their depth that
fails when their values can be bound. -/
lemma exists_foldlM_eq_error (here : depth ≤ maxDepth) (deep : maxDepth < depth + leading clauses) :
    ∃ failure, clauses.foldlM Reading.clause ⟨bound, .nested depth⟩ = .error failure ∧
      (bound + boundTo clauses ≤ maxBound → failure = .tooDeep) := by
  induction clauses generalizing bound depth with
  | nil => exact absurd deep (Nat.not_lt.2 here)
  | cons clause rest ih =>
    cases never : clause.isNever with
    | true =>
      rw [leading_cons_of_isNever never] at deep
      omega
    | false =>
      have deeper := Conjunction.nested_and never depth
      rw [leading_cons never] at deep
      rw [List.foldlM_cons, boundTo_cons, ← Nat.add_assoc]
      by_cases more : depth + 1 ≤ maxDepth
      · rw [clause_of_depth (by rw [deeper]; exact more)]
        by_cases fits : bound + clause.bound ≤ maxBound
        · rw [if_pos fits, next, deeper]
          exact ih more (by omega)
        · rw [if_neg fits]
          exact ⟨_, rfl, fun all => absurd all (by omega)⟩
      · let before : Reading := ⟨bound, .nested depth⟩
        have last : maxDepth < (before.conjunction.and clause).depth := by
          rw [deeper]
          exact Nat.not_le.1 more
        obtain ⟨failure, read, cause⟩ := exists_clause_eq_error last
        rw [read]
        exact ⟨failure, rfl, fun all => cause (le_trans (Nat.le_add_right ..) all)⟩

/-- Clauses are read from the start, when they are nested no deeper than a statement takes. -/
lemma foldlM_of_leading (shallow : leading clauses + 2 ≤ maxDepth) :
    clauses.foldlM Reading.clause {}
      = if boundTo clauses ≤ maxBound
        then .ok ⟨boundTo clauses, conjunctionOf clauses⟩ else .error .tooManyValues := by
  unfold conjunctionOf
  cases clauses with
  | nil => rfl
  | cons clause rest =>
    rw [← Nat.zero_add (boundTo (clause :: rest)), List.any_cons]
    cases never : clause.isNever with
    | true =>
      have constant := Conjunction.and_of_isNever never .empty
      refine foldlM_cons_of_depth (by simp [constant, Conjunction.depth, maxDepth]) fun more => ?_
      rw [next, constant, foldlM_never more, boundTo_cons, Nat.add_assoc 0]
      rfl
    | false =>
      have first := Conjunction.empty_and never
      rw [leading_cons never] at shallow
      refine foldlM_cons_of_depth (by simp [first, Conjunction.depth, maxDepth]) fun more => ?_
      rw [next, first, foldlM_nested more (by omega), boundTo_cons, Nat.add_assoc 0,
        Bool.false_or, List.length_cons, Nat.add_comm 3]
      rfl

/-- Clauses are not read from the start, when they are nested deeper than a statement takes. -/
lemma exists_foldlM_eq_error_of_leading (deep : maxDepth < leading clauses + 2) :
    ∃ failure, clauses.foldlM Reading.clause {} = .error failure ∧
      (boundTo clauses ≤ maxBound → failure = .tooDeep) := by
  cases clauses with
  | nil => exact absurd deep (by decide)
  | cons clause rest =>
    cases never : clause.isNever with
    | true =>
      rw [leading_cons_of_isNever never] at deep
      exact absurd deep (by decide)
    | false =>
      have first := Conjunction.empty_and never
      rw [leading_cons never] at deep
      rw [List.foldlM_cons, clause_of_depth (by simp [first, Conjunction.depth, maxDepth]),
        boundTo_cons]
      by_cases fits : 0 + clause.bound ≤ maxBound
      · have rest : maxDepth < 3 + leading rest := by omega
        obtain ⟨failure, read, cause⟩ := exists_foldlM_eq_error (by decide) rest
        rw [if_pos fits, next, first]
        refine ⟨failure, read, fun all => cause ?_⟩
        rwa [← Nat.zero_add (clause.bound + _), ← Nat.add_assoc] at all
      · rw [if_neg fits]
        exact ⟨_, rfl, fun all => absurd all (by omega)⟩

end Reading

/-! ### Reading a query -/

/-- How deep clauses are nested in a ranking: the two joins nest a conjunction further that is no
constant. -/
def nesting (clauses : List Clause) : Nat :=
  leading clauses + if clauses.any Clause.isNever then 2 else 4

lemma nesting_le (clauses : List Clause) : nesting clauses ≤ clauses.length + 4 := by
  have leads := leading_le_length clauses
  unfold nesting
  split <;> omega

/-- Clauses that may all hold are nested as deep as there are clauses, and the joins. -/
lemma nesting_of_hold {clauses : List Clause} (hold : clauses.any Clause.isNever = false) :
    nesting clauses = clauses.length + 4 := by
  unfold nesting
  rw [leading_eq_length hold, hold]
  rfl

/-- A clause nests a ranking one deeper, unless it never holds. -/
lemma nesting_cons {clause : Clause} {clauses : List Clause} (holds : clause.isNever = false) :
    nesting (clause :: clauses) = nesting clauses + 1 := by
  unfold nesting
  rw [leading_cons holds, List.any_cons, holds, Bool.false_or, Nat.add_right_comm]

/-- Clauses are nested as deep before the joins at most. -/
lemma leading_le_nesting (clauses : List Clause) : leading clauses + 2 ≤ nesting clauses := by
  unfold nesting
  split <;> omega

/-- The joins nest a conjunction as deep as its clauses say. -/
lemma nesting_le_iff_joined {clauses : List Clause} (shallow : leading clauses + 2 ≤ maxDepth) :
    nesting clauses ≤ maxDepth ↔ (conjunctionOf clauses).joined ≤ maxDepth := by
  unfold nesting conjunctionOf
  cases never : clauses.any Clause.isNever with
  | true =>
    rw [if_pos rfl, if_pos rfl]
    exact iff_of_true shallow (by decide)
  | false =>
    rw [leading_eq_length never, if_neg Bool.false_ne_true, if_neg Bool.false_ne_true]
    cases clauses with
    | nil => exact iff_of_true (by decide) (by decide)
    | cons clause rest => rfl

/-- Whether some values can be bound along with a list of ids, if there is one. A list without ids
makes no statement. -/
def BindableWith (ids? : Option (List Int)) (values : Nat) : Prop :=
  ids?.any (·.isEmpty) = false → values + (ids?.map List.length).getD 0 ≤ maxBound

instance (ids? : Option (List Int)) (values : Nat) : Decidable (BindableWith ids? values) :=
  inferInstanceAs (Decidable (_ → _))

/-- Whether some values can be bound along with a selection of releases. A list without releases
makes no statement. -/
def ReleaseSelection.BindableWith (releases : ReleaseSelection) (values : Nat) : Prop :=
  releases.isEmpty = false → releases.bound + values ≤ maxBound

instance (releases : ReleaseSelection) (values : Nat) : Decidable (releases.BindableWith values) :=
  inferInstanceAs (Decidable (_ → _))

namespace RankQuery

/-- Without components it is the releases that make a query empty. -/
lemma isEmpty_free (granularity : Granularity) (releases : ReleaseSelection)
    (clauses : List Clause) :
    isEmpty ⟨granularity, releases, none, clauses⟩ = releases.isEmpty := Bool.or_false _

/-- The number of values that are bound to a query. -/
def bound (query : RankQuery) : Nat :=
  boundTo query.conditions + (query.components.map List.length).getD 0

/-- They are those of its releases, of its clauses and of its components. -/
lemma bound_eq (query : RankQuery) :
    query.bound = query.releases.bound
      + (boundTo query.clauses + (query.components.map List.length).getD 0) := by
  unfold bound conditions ReleaseSelection.bound
  cases query.releases with
  | all => exact (Nat.zero_add _).symm
  | only ids =>
    rw [boundTo_cons, Nat.add_assoc]
    rfl

/-- The releases of a query make one more clause. -/
lemma length_conditions_le (query : RankQuery) :
    query.conditions.length ≤ query.clauses.length + 1 := by
  unfold conditions
  cases query.releases with
  | all => exact Nat.le_succ _
  | only ids => exact Nat.le_refl _

/-- A query whose values can be bound, if it makes a statement at all. -/
def IsBindable (query : RankQuery) : Prop := query.isEmpty = false → query.bound ≤ maxBound

instance (query : RankQuery) : Decidable query.IsBindable :=
  inferInstanceAs (Decidable (query.isEmpty = false → query.bound ≤ maxBound))

/-- A query that a statement takes. -/
structure Fits (query : RankQuery) : Prop where
  bound : query.bound ≤ maxBound
  nesting : nesting query.conditions ≤ maxDepth

instance (query : RankQuery) : Decidable query.Fits :=
  decidable_of_iff (query.bound ≤ maxBound ∧ nesting query.conditions ≤ maxDepth)
    ⟨fun ⟨bound, nesting⟩ => ⟨bound, nesting⟩, fun fits => ⟨fits.bound, fits.nesting⟩⟩

variable {query : RankQuery}

/-- A query is read when its values can be bound and its clauses are not nested too deep. -/
lemma read_of_leading (shallow : leading query.conditions + 2 ≤ maxDepth) :
    query.read = if query.bound ≤ maxBound
      then .ok (conjunctionOf query.conditions) else .error .tooManyValues := by
  unfold read bound
  rw [Reading.foldlM_of_leading shallow]
  by_cases here : boundTo query.conditions ≤ maxBound
  · rw [if_pos here]
    change (bindable _ >>= fun _ => pure _) = _
    unfold bindable
    split <;> rfl
  · rw [if_neg here, if_neg fun all => here (by omega)]
    rfl

/-- A query whose clauses are nested too deep is not read. -/
lemma exists_read_eq_error (deep : maxDepth < leading query.conditions + 2) :
    ∃ failure, query.read = .error failure ∧ (query.bound ≤ maxBound → failure = .tooDeep) := by
  obtain ⟨failure, read, cause⟩ := Reading.exists_foldlM_eq_error_of_leading deep
  refine ⟨failure, ?_, fun all => cause (le_trans (Nat.le_add_right ..) all)⟩
  unfold RankQuery.read
  rw [read]
  rfl

/-- A query fits when it is read and the joins nest it no deeper than a statement takes. -/
lemma exists_read_iff_fits :
    (∃ conjunction, query.read = .ok conjunction ∧ conjunction.joined ≤ maxDepth) ↔
      query.Fits := by
  by_cases shallow : leading query.conditions + 2 ≤ maxDepth
  · have joined := nesting_le_iff_joined shallow
    rw [read_of_leading shallow]
    constructor
    · rintro ⟨conjunction, read, fits⟩
      split at read
      · rename_i bound
        cases read
        exact ⟨bound, joined.2 fits⟩
      · cases read
    · intro fits
      rw [if_pos fits.bound]
      exact ⟨_, rfl, joined.1 fits.nesting⟩
  · constructor
    · rintro ⟨conjunction, read, -⟩
      obtain ⟨failure, failed, -⟩ := exists_read_eq_error (Nat.not_le.1 shallow)
      rw [failed] at read
      cases read
    · intro fits
      exact absurd (le_trans (leading_le_nesting _) fits.nesting) shallow

/-- Queries whose values can be bound are read alike when they have the same lists without
members. -/
lemma read_congr {query' : RankQuery} (bound : query.bound ≤ maxBound)
    (bound' : query'.bound ≤ maxBound)
    (same : query.conditions.map Clause.isNever = query'.conditions.map Clause.isNever) :
    query.read = query'.read := by
  by_cases shallow : leading query.conditions + 2 ≤ maxDepth
  · have shallow' : leading query'.conditions + 2 ≤ maxDepth := by
      rw [← leading_congr same]
      exact shallow
    rw [read_of_leading shallow, read_of_leading shallow', if_pos bound, if_pos bound',
      conjunctionOf_congr same]
  · have deep : maxDepth < leading query.conditions + 2 := Nat.not_le.1 shallow
    have deep' : maxDepth < leading query'.conditions + 2 := by
      rw [← leading_congr same]
      exact deep
    obtain ⟨failure, read, cause⟩ := exists_read_eq_error deep
    obtain ⟨failure', read', cause'⟩ := exists_read_eq_error deep'
    rw [read, read', cause bound, cause' bound']

/-! ### Queries with other lists -/

/-- A query of some releases. -/
def ofReleases (query : RankQuery) (ids : List Int) : RankQuery :=
  { query with releases := .only ids }

/-- A query of the problems of some components. -/
def ofComponents (query : RankQuery) (ids : List Int) : RankQuery :=
  { query with components := some ids }

variable {ids ids' : List Int}

lemma isEmpty_ofReleases_congr (same : ∀ id, id ∈ ids ↔ id ∈ ids') :
    (query.ofReleases ids).isEmpty = (query.ofReleases ids').isEmpty := by
  simp only [ofReleases, isEmpty, ReleaseSelection.isEmpty, isEmpty_congr same]

lemma isEmpty_ofComponents_congr (same : ∀ id, id ∈ ids ↔ id ∈ ids') :
    (query.ofComponents ids).isEmpty = (query.ofComponents ids').isEmpty := by
  simp only [ofComponents, isEmpty, Option.any_some, isEmpty_congr same]

/-- Releases are read by their number. -/
lemma read_ofReleases_of_length (same : ids.length = ids'.length) :
    (query.ofReleases ids).read = (query.ofReleases ids').read := by
  unfold read ofReleases conditions
  simp only [List.foldlM_cons, Reading.clause_oneOf_congr same]

/-- Components are read by their number. -/
lemma read_ofComponents_of_length (same : ids.length = ids'.length) :
    (query.ofComponents ids).read = (query.ofComponents ids').read := by
  unfold read ofComponents conditions
  simp only [Option.map_some, same]

/-- Releases with the same members are read alike as long as they can be bound. -/
lemma read_ofReleases_congr (same : ∀ id, id ∈ ids ↔ id ∈ ids')
    (bound : (query.ofReleases ids).bound ≤ maxBound)
    (bound' : (query.ofReleases ids').bound ≤ maxBound) :
    (query.ofReleases ids).read = (query.ofReleases ids').read := by
  refine read_congr bound bound' ?_
  simp only [ofReleases, conditions, List.map_cons, Clause.isNever_oneOf, isEmpty_congr same]

end RankQuery

end CrashTriage
