import CrashTriage.Proofs.RecordedDates
import CrashTriage.Store.Lookup

/-!
# The scan in batches

A scan of the problems without reports looks for the next batch after the last id that it has seen.
Ids ascend, so what comes after that id is exactly what the batches so far have left, and the
batches follow one another without a gap or an overlap. A batch that is not full has nothing after
it, which is why the scan may stop there; when the last batch is full, the next one is empty and
ends the scan too. What the visitor says decides only how many of these batches are handed over.
-/

namespace CrashTriage.Store

/-! ### Batches -/

/-- The problems after an id. -/
def later (problems : List Problem) (after : Int) : List Problem :=
  problems.filter fun problem => after < problem.id

/-- Rows cut into batches of a size: no batch is empty, and all but the last one are full. -/
structure IsCutInto (rows : List Problem) (size : Nat) (batches : List (List Problem)) : Prop where
  flatten : batches.flatten = rows
  full : ∀ batch ∈ batches.dropLast, batch.length = size
  nonempty : ∀ batch ∈ batches, 0 < batch.length
  bounded : size ≤ Numeral.maxInt64.toNat ∨ rows.length ≤ Numeral.maxInt64.toNat →
    ∀ batch ∈ batches, batch.length ≤ size

/-- What a visitor makes of a list of batches: those handed over to it until it fails, and the
number of rows in all of them or its failure. -/
def handOver (visit : Nat → List Problem → Except Failure Unit) :
    List (List Problem) → Nat → Nat → Scan
  | [], _, visited => ⟨[], .ok visited⟩
  | batch :: rest, number, visited =>
    match visit number batch with
    | .error failure => ⟨[batch], .error failure⟩
    | .ok () =>
      let others := handOver visit rest (number + 1) (visited + batch.length)
      ⟨batch :: others.batches, others.visited⟩

variable {problems rows : List Problem} {size : Nat} {after : Int}
  {batches : List (List Problem)} {visit : Nat → List Problem → Except Failure Unit}

/-- Without rows there are no batches. -/
lemma IsCutInto.eq_nil (cut : IsCutInto [] size batches) : batches = [] := by
  cases batches with
  | nil => rfl
  | cons batch rest =>
    have some := cut.nonempty batch List.mem_cons_self
    have none : batch = [] := (List.append_eq_nil_iff.1 cut.flatten).1
    rw [none] at some
    cases some

/-- A batch in front of rows that are cut into batches, which is full if there are such rows. -/
lemma IsCutInto.cons {batch : List Problem} (cut : IsCutInto rows size batches)
    (nonempty : 0 < batch.length) (full : rows ≠ [] → batch.length = size)
    (bounded : size ≤ Numeral.maxInt64.toNat ∨ (batch ++ rows).length ≤ Numeral.maxInt64.toNat →
      batch.length ≤ size) :
    IsCutInto (batch ++ rows) size (batch :: batches) where
  flatten := by rw [List.flatten_cons, cut.flatten]
  full other member := by
    cases batches with
    | nil => cases member
    | cons next others =>
      rw [List.dropLast_cons_cons, List.mem_cons] at member
      rcases member with rfl | member
      · apply full
        rintro rfl
        cases cut.eq_nil
      · exact cut.full other member
  nonempty := List.forall_mem_cons.2 ⟨nonempty, cut.nonempty⟩
  bounded fits := by
    refine List.forall_mem_cons.2 ⟨bounded fits, cut.bounded (fits.imp_right fun few => ?_)⟩
    rw [List.length_append] at few
    omega

/-- The next batch is made of the first later problems, of all of them beyond 64 bits. -/
lemma nextBatch_eq (problems : List Problem) (size : Nat) (after : Int) :
    nextBatch problems size after
      = if size ≤ Numeral.maxInt64.toNat then (later problems after).take size
        else later problems after := rfl

/-- So the next batch comes first among the later problems, and it is full unless nothing comes
after it. -/
lemma exists_rest_nextBatch (problems : List Problem) (size : Nat) (after : Int) :
    ∃ rest, later problems after = nextBatch problems size after ++ rest ∧
      (rest ≠ [] → (nextBatch problems size after).length = size) ∧
      (size ≤ Numeral.maxInt64.toNat ∨
          (later problems after).length ≤ Numeral.maxInt64.toNat →
        (nextBatch problems size after).length ≤ size) := by
  rw [nextBatch_eq]
  split
  · refine ⟨(later problems after).drop size, (List.take_append_drop _ _).symm, fun more => ?_,
      fun _ => List.length_take_le _ _⟩
    have long : size < (later problems after).length := by
      rw [ne_eq, List.drop_eq_nil_iff] at more
      omega
    exact List.length_take_of_le (Nat.le_of_lt long)
  · rename_i unlimited
    refine ⟨[], (List.append_nil _).symm, fun more => absurd rfl more, fun few => ?_⟩
    omega

/-- Without a next batch there are no later problems. -/
lemma later_eq_nil (positive : 0 < size)
    (ends : (nextBatch problems size after).getLast? = none) : later problems after = [] := by
  obtain ⟨rest, split, full, -⟩ := exists_rest_nextBatch problems size after
  rw [List.getLast?_eq_none_iff] at ends
  rw [ends, List.length_nil] at full
  rw [split, ends, List.nil_append]
  by_contra more
  have := full more
  omega

/-- In a list whose ids ascend, the rows after the last id of a front are the back. -/
lemma later_last {front back : List Problem} {last : Problem}
    (ascending : (front ++ back).Pairwise fun a b => a.id < b.id)
    (ends : front.getLast? = some last) : later (front ++ back) last.id = back := by
  obtain ⟨init, rfl⟩ := List.getLast?_eq_some_iff.1 ends
  obtain ⟨before, -, across⟩ := List.pairwise_append.1 ascending
  obtain ⟨-, -, below⟩ := List.pairwise_append.1 before
  unfold later
  have passed : (init ++ [last]).filter (fun problem => last.id < problem.id) = [] := by
    rw [List.filter_eq_nil_iff]
    intro problem member
    rcases List.mem_append.1 member with earlier | itself
    · have := below problem earlier last (List.mem_singleton_self _)
      simp only [decide_eq_true_eq]
      omega
    · rw [List.mem_singleton.1 itself]
      simp
  have ahead : back.filter (fun problem => last.id < problem.id) = back := by
    rw [List.filter_eq_self]
    intro problem member
    exact decide_eq_true (across last (List.mem_append_right _ (List.mem_singleton_self _)) problem
      member)
  rw [List.filter_append, passed, ahead, List.nil_append]

/-- What comes after a later id comes after that id among the later problems. -/
lemma later_later {last : Int} (forward : after < last) :
    later (later problems after) last = later problems last := by
  unfold later
  rw [List.filter_filter]
  refine List.filter_congr fun problem _ => ?_
  by_cases beyond : last < problem.id
  · simp [beyond, Int.lt_trans forward beyond]
  · simp [beyond]

/-- The next batch is followed by what comes after its last row. -/
lemma later_eq_nextBatch_append (ascending : problems.Pairwise fun a b => a.id < b.id)
    {last : Problem} (ends : (nextBatch problems size after).getLast? = some last) :
    later problems after = nextBatch problems size after ++ later problems last.id ∧
      (later problems last.id ≠ [] → (nextBatch problems size after).length = size) ∧
      (size ≤ Numeral.maxInt64.toNat ∨
          (later problems after).length ≤ Numeral.maxInt64.toNat →
        (nextBatch problems size after).length ≤ size) := by
  obtain ⟨rest, split, full, bounded⟩ := exists_rest_nextBatch problems size after
  have forward := (mem_of_mem_nextBatch (List.mem_of_getLast? ends)).2
  have order : (later problems after).Pairwise fun a b => a.id < b.id := ascending.filter _
  have tail : rest = later problems last.id := by
    rw [split] at order
    rw [← later_later forward, split, later_last order ends]
  rw [← tail]
  exact ⟨split, full, bounded⟩

/-! ### The scan hands batches over -/

/-- A scan ends when there is no next batch. -/
lemma scanFrom_of_none {number visited : Nat}
    (ends : (nextBatch problems size after).getLast? = none) :
    scanFrom problems size visit after number visited = ⟨[], .ok visited⟩ := by
  rw [scanFrom]
  split
  · rfl
  · rename_i last found
    rw [ends] at found
    cases found

/-- A scan hands the next batch over and goes on after its last row, unless the visitor fails or the
batch is not full. -/
lemma scanFrom_of_last {number visited : Nat} {last : Problem}
    (ends : (nextBatch problems size after).getLast? = some last) :
    scanFrom problems size visit after number visited =
      match visit number (nextBatch problems size after) with
      | .error failure => ⟨[nextBatch problems size after], .error failure⟩
      | .ok () =>
        if (nextBatch problems size after).length < size then
          ⟨[nextBatch problems size after],
            .ok (visited + (nextBatch problems size after).length)⟩
        else
          let rest := scanFrom problems size visit last.id (number + 1)
            (visited + (nextBatch problems size after).length)
          ⟨nextBatch problems size after :: rest.batches, rest.visited⟩ := by
  rw [scanFrom]
  split
  · rename_i found
    rw [ends] at found
    cases found
  · rename_i found
    obtain rfl : last = _ := Option.some.inj (ends.symm.trans found)
    rfl

/-- A scan hands over the problems after an id, cut into batches, one after the other. Every batch
leaves fewer problems to come, on which the induction is. -/
lemma exists_batches (ascending : problems.Pairwise fun a b => a.id < b.id) (positive : 0 < size)
    (after : Int) : ∃ batches, IsCutInto (later problems after) size batches ∧
      ∀ visit number visited, scanFrom problems size visit after number visited
        = handOver visit batches number visited := by
  induction left : (later problems after).length using Nat.strong_induction_on
    generalizing after with
  | _ n ih =>
    cases ends : (nextBatch problems size after).getLast? with
    | none =>
      have nothing := later_eq_nil positive ends
      refine ⟨[], ?_, fun visit number visited => scanFrom_of_none ends⟩
      rw [nothing]
      exact ⟨rfl, nofun, nofun, fun _ => nofun⟩
    | some last =>
      obtain ⟨split, full, bounded⟩ := later_eq_nextBatch_append ascending ends
      have nonempty : 0 < (nextBatch problems size after).length :=
        List.length_pos_of_mem (List.mem_of_getLast? ends)
      have fewer : (later problems last.id).length < n := by
        rw [← left]
        exact nextBatch_moves_forward ends
      obtain ⟨batches, cut, scans⟩ := ih _ fewer last.id rfl
      rw [split] at bounded ⊢
      refine ⟨_ :: batches, cut.cons nonempty full bounded, fun visit number visited => ?_⟩
      rw [scanFrom_of_last ends, handOver]
      cases visit number (nextBatch problems size after) with
      | error failure => rfl
      | ok _ =>
        dsimp only
        split
        · -- a batch that is not full has nothing after it
          have none : later problems last.id = [] := by
            by_contra more
            have := full more
            omega
          rw [none] at cut
          rw [cut.eq_nil]
          rfl
        · rw [scans]

/-! ### What the visitor decides -/

/-- A visitor that accepts the batches is given all of them. -/
lemma handOver_of_accepted (number visited : Nat)
    (accepted : ∀ i batch, batches[i]? = some batch → visit (number + i) batch = .ok ()) :
    handOver visit batches number visited = ⟨batches, .ok (visited + batches.flatten.length)⟩ := by
  induction batches generalizing number visited with
  | nil => rfl
  | cons batch rest ih =>
    have first : visit number batch = .ok () := accepted 0 batch rfl
    have others (i : Nat) (b : List Problem) (there : rest[i]? = some b) :
        visit (number + 1 + i) b = .ok () := by
      rw [Nat.add_assoc, Nat.add_comm 1 i]
      exact accepted (i + 1) b there
    rw [handOver, first]
    dsimp only
    rw [ih (number + 1) (visited + batch.length) others, List.flatten_cons, List.length_append,
      Nat.add_assoc]

/-- A visitor that fails is given the batches up to the one on which it fails. -/
lemma handOver_of_refused (number visited : Nat) {n : Nat} {refused : List Problem}
    {failure : Failure} (there : batches[n]? = some refused)
    (accepted : ∀ i < n, ∀ batch, batches[i]? = some batch → visit (number + i) batch = .ok ())
    (fails : visit (number + n) refused = .error failure) :
    handOver visit batches number visited = ⟨batches.take (n + 1), .error failure⟩ := by
  induction batches generalizing number visited n with
  | nil => cases there
  | cons batch rest ih =>
    rw [handOver]
    cases n with
    | zero =>
      obtain rfl : batch = refused := Option.some.inj there
      rw [show visit number batch = .error failure from fails]
      rfl
    | succ n =>
      have first : visit number batch = .ok () := accepted 0 (Nat.succ_pos n) batch rfl
      have others (i : Nat) (before : i < n) (b : List Problem) (there : rest[i]? = some b) :
          visit (number + 1 + i) b = .ok () := by
        rw [Nat.add_assoc, Nat.add_comm 1 i]
        exact accepted (i + 1) (Nat.succ_lt_succ before) b there
      have last : visit (number + 1 + n) refused = .error failure := by
        rw [Nat.add_assoc, Nat.add_comm 1 n]
        exact fails
      rw [first]
      dsimp only
      rw [ih (number + 1) (visited + batch.length) there others last]
      rfl

/-! ### Problems without reports -/

/-- The next id of a register whose ids are positive is positive. -/
lemma one_le_nextId {ρ : Type} [Identified ρ] {table : Register ρ}
    (positive : ∀ row ∈ table.rows, 1 ≤ Identified.id row) : 1 ≤ table.nextId := by
  unfold Register.nextId
  split
  · exact Int.le_refl 1
  · rename_i row last
    have := positive row (List.mem_of_getLast? last)
    omega

/-- The ids of problems are positive. -/
lemma one_le_problem_id (commands : List Command)
    (keeps : ∀ command ∈ commands, command.keepsTables = true) :
    ∀ row ∈ rowsOf (migrated.run commands).problems, 1 ≤ row.id := by
  refine trace_induction (P := fun _ store => ∀ row ∈ rowsOf store.problems, 1 ≤ row.id) ?_ ?_
    commands keeps
  · intro row member
    cases member
  · intro _ store command _ keepsTables positive row member
    have effect := effect_step store keepsTables
    generalize (store.step command).2 = after at effect member
    generalize (⟨command, (store.step command).1⟩ : Event) = event at effect
    cases effect with
    | unchanged _ problems _ _ =>
      rw [problems] at member
      exact positive row member
    | insertProblem yields =>
      obtain ⟨table, found, -, -, rfl⟩ := insertProblem_yields_iff.1 yields
      rw [found] at positive
      rcases List.mem_append.1 member with old | new
      · exact positive row old
      · rw [List.mem_singleton.1 new]
        exact one_le_nextId positive
    | insertReport yields =>
      obtain ⟨table, -, -, -, -, rfl⟩ := insertReport_yields_iff.1 yields
      exact positive row member
    | record count yields =>
      rcases exists_problem_before_record count yields member with old | ⟨old, there, rfl⟩
      · exact positive row old
      · exact positive old there
    | delete removed => exact positive row (mem_problems_of_removeRows removed member)

/-- In a sound store the problems that no report belongs to can be listed, in ascending order. -/
lemma Sound.exists_emptyProblems {store : Store} (sound : store.Sound) :
    ∃ empty, store.emptyProblems = .ok empty ∧
      (∀ problem, problem ∈ empty ↔ problem ∈ rowsOf store.problems ∧
        ∀ report ∈ rowsOf store.reports, report.problem ≠ some problem.id) ∧
      empty.Pairwise fun a b => a.id < b.id := by
  obtain ⟨table, foundProblems⟩ := Option.isSome_iff_exists.1 (sound.tables .problems)
  obtain ⟨reports, foundReports⟩ := Option.isSome_iff_exists.1 (sound.tables .reports)
  unfold emptyProblems
  rw [foundProblems, foundReports]
  refine ⟨_, rfl, fun problem => ?_, table.ascending.filter _⟩
  simp [List.mem_filter]

/-- After any run of commands that enter, link, record or remove rows, the scan in batches of any
size is the list of the problems without reports, cut into batches. The list has each problem that
no report belongs to, in strictly ascending order; the batches make it up one after the other, all
but the last have as many rows as the size says, at least one, and none is empty. A visitor that
never fails is given all of them, and the scan gives the number of rows. One that fails on a batch
has been given the batches up to that one, and its failure ends the scan. A size beyond 64 bits sets
no limit, so there the last batch is within the size when the problems can be counted in 64 bits. -/
theorem batches_cover_empty_problems (commands : List Command)
    (keeps : ∀ command ∈ commands, command.keepsTables = true) (size : Nat) :
    ∃ empty batches, (migrated.run commands).emptyProblems = .ok empty ∧
      (∀ problem, problem ∈ empty ↔ problem ∈ rowsOf (migrated.run commands).problems ∧
        ∀ report ∈ rowsOf (migrated.run commands).reports, report.problem ≠ some problem.id) ∧
      (empty.Pairwise fun a b => a.id < b.id) ∧
      batches.flatten = empty ∧ (empty = [] → batches = []) ∧
      (∀ batch ∈ batches.dropLast, batch.length = max size 1) ∧
      (∀ batch ∈ batches, 1 ≤ batch.length) ∧
      (max size 1 ≤ Numeral.maxInt64.toNat ∨ empty.length ≤ Numeral.maxInt64.toNat →
        ∀ batch ∈ batches, batch.length ≤ max size 1) ∧
      (∀ visit, (∀ n batch, batches[n]? = some batch → visit (n + 1) batch = .ok ()) →
        (migrated.run commands).scanEmptyProblems size visit = ⟨batches, .ok empty.length⟩) ∧
      ∀ visit n batch failure, batches[n]? = some batch →
        (∀ i < n, ∀ earlier, batches[i]? = some earlier → visit (i + 1) earlier = .ok ()) →
        visit (n + 1) batch = .error failure →
        (migrated.run commands).scanEmptyProblems size visit
          = ⟨batches.take (n + 1), .error failure⟩ := by
  have sound := sound_migrated.run keeps
  obtain ⟨empty, listed, membership, ascending⟩ := sound.exists_emptyProblems
  have all : later empty Numeral.minInt64 = empty := by
    unfold later
    rw [List.filter_eq_self]
    intro problem member
    have positive := one_le_problem_id commands keeps problem ((membership problem).1 member).1
    unfold Numeral.minInt64
    exact decide_eq_true (by omega)
  obtain ⟨batches, cut, scans⟩ :=
    exists_batches ascending (show 0 < max size 1 by omega) Numeral.minInt64
  rw [all] at cut
  have scan (visit : Nat → List Problem → Except Failure Unit) :
      (migrated.run commands).scanEmptyProblems size visit = handOver visit batches 1 0 := by
    unfold scanEmptyProblems
    rw [listed]
    exact scans visit 1 0
  refine ⟨empty, batches, listed, membership, ascending, cut.flatten, ?_, cut.full, cut.nonempty,
    cut.bounded, ?_, ?_⟩
  · rintro rfl
    exact cut.eq_nil
  · intro visit accepted
    rw [scan, handOver_of_accepted 1 0, cut.flatten, Nat.zero_add]
    intro n batch there
    rw [Nat.add_comm]
    exact accepted n batch there
  · intro visit n batch failure there accepted fails
    rw [scan, handOver_of_refused 1 0 there]
    · intro i before earlier found
      rw [Nat.add_comm]
      exact accepted i before earlier found
    · rw [Nat.add_comm]
      exact fails

/-- Commands that enter five problems, the first of them with a report. -/
def fiveProblems : List Command :=
  oneReport newYearsEve ++ List.replicate 4 (.insertProblem newYearsEve newYearsDay)

/-- The other four of these problems. -/
def fourEmptyProblems : List Problem :=
  [⟨2, newYearsEve, newYearsDay⟩, ⟨3, newYearsEve, newYearsDay⟩, ⟨4, newYearsEve, newYearsDay⟩,
    ⟨5, newYearsEve, newYearsDay⟩]

/-- The four problems without a report come in a batch of three and a batch of one, and a visitor
that fails on the second batch has been given both. -/
theorem batches_of_fiveProblems :
    ∃ first second, first ++ second = fourEmptyProblems ∧ first.length = 3 ∧
      (migrated.run fiveProblems).scanEmptyProblems 3 (fun _ _ => .ok ())
        = ⟨[first, second], .ok 4⟩ ∧
      (migrated.run fiveProblems).scanEmptyProblems 3
          (fun n _ => if n = 2 then .error .noRows else .ok ())
        = ⟨[first, second], .error .noRows⟩ := by
  have four : (migrated.run fiveProblems).emptyProblems = .ok fourEmptyProblems := rfl
  obtain ⟨empty, batches, listed, -, -, whole, -, full, -, bounded, accepted, refused⟩ :=
    batches_cover_empty_problems fiveProblems (by decide) 3
  obtain rfl : fourEmptyProblems = empty := Except.ok.inj (four.symm.trans listed)
  have count : batches.flatten.length = 4 := by rw [whole]; rfl
  have most := bounded (.inl (by decide))
  match batches, whole, count with
  | [only], _, count =>
    have := most only (List.mem_singleton_self _)
    simp at count
    omega
  | [first, second], whole, _ =>
    refine ⟨first, second, by simpa using whole, full first (by simp),
      accepted _ fun _ _ _ => rfl, refused _ 1 second .noRows rfl ?_ rfl⟩
    intro i before earlier _
    rw [if_neg (by omega)]
  | first :: second :: third :: rest, _, count =>
    have := full first (by simp)
    have := full second (by simp)
    simp at count
    omega

end CrashTriage.Store
