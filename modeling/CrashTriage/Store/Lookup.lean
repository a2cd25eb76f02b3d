import CrashTriage.Store.Failure

/-!
# Looking rows up

Reads of the store by key, the release ids of an operating system, and the scan of the problems
without reports. A row that is absent is no failure. Main statement: the scan moves forward, since
every batch ends with a greater id than the one before.
-/

namespace CrashTriage.Store

/-! ### Problems and links -/

/-- Every problem, in ascending order of ids. -/
def getProblems (store : Store) : Except Failure (List Problem) := do
  let problems ← present .problems store.problems
  pure problems.rows

/-- The problem with an id. -/
def getProblem? (store : Store) (id : Int) : Except Failure (Option Problem) := do
  let problems ← present .problems store.problems
  pure (problems.find? id)

/-- The link between a problem and a component. -/
def componentLink? (store : Store) (problem component : Int) :
    Except Failure (Option ComponentLink) := do
  let links ← present .componentLinks store.componentLinks
  pure (links.find? (problem, component))

/-- The link between a problem and a release. -/
def releaseLink? (store : Store) (problem release : Int) : Except Failure (Option ReleaseLink) := do
  let links ← present .releaseLinks store.releaseLinks
  pure (links.find? (problem, release))

/-- The ids of the problems linked to one of the given components, in ascending order. Without
components the store is not read. -/
def problemsOfComponents (store : Store) (components : List Int) : Except Failure (List Int) :=
  if components.isEmpty then .ok []
  else do
    bindable components.length
    let links ← present .componentLinks store.componentLinks
    let ids := (links.rows.filter (·.component ∈ components)).map (·.problem)
    pure (ids.eraseDups.mergeSort (· ≤ ·))

/-! ### Releases of an operating system -/

/-- Whether an optional name selects a value: an absent or empty one selects all. -/
def selects (wanted : Option String) (value : String) : Bool :=
  match wanted with
  | none => true
  | some name => name.isEmpty || name = value

/-- The ids of the releases with the given version of the operating system with the given name, in
ascending order. -/
def releaseIds (store : Store) (opsys version : Option String) : Except Failure (List Int) := do
  let releases ← present .releases store.releases
  let systems ← present .opsys store.opsys
  let wanted := releases.rows.filter fun release =>
    selects version release.version
      && (systems.find? release.opsys).any fun system => selects opsys system.name
  pure (wanted.map (·.id))

/-! ### Problems without reports -/

/-- The problems that no report belongs to, in ascending order of ids. -/
def emptyProblems (store : Store) : Except Failure (List Problem) := do
  let problems ← present .problems store.problems
  let reports ← present .reports store.reports
  pure (problems.rows.filter fun problem =>
    !reports.rows.any fun report => report.problem = some problem.id)

/-- The next rows after an id, at most `size` of them; a size beyond the signed integers of 64 bits
sets no limit. -/
def nextBatch (problems : List Problem) (size : Nat) (after : Int) : List Problem :=
  let later := problems.filter fun problem => after < problem.id
  if size ≤ Numeral.maxInt64.toNat then later.take size else later

theorem mem_of_mem_nextBatch {problems : List Problem} {size : Nat} {after : Int} {p : Problem}
    (h : p ∈ nextBatch problems size after) : p ∈ problems ∧ after < p.id := by
  simp only [nextBatch] at h
  split at h
  · simpa using List.mem_of_mem_take h
  · simpa using h

/-- Fewer rows come after the last row of a batch than came after the id it starts from. -/
theorem nextBatch_moves_forward {problems : List Problem} {size : Nat} {after : Int}
    {last : Problem} (h : (nextBatch problems size after).getLast? = some last) :
    (problems.filter fun p => last.id < p.id).length
      < (problems.filter fun p => after < p.id).length := by
  have ⟨member, later⟩ := mem_of_mem_nextBatch (List.mem_of_getLast? h)
  have sub : (problems.filter fun p => last.id < p.id)
      = (problems.filter fun p => after < p.id).filter fun p => last.id < p.id := by
    rw [List.filter_filter]
    apply List.filter_congr
    intro p _
    by_cases hp : last.id < p.id
    · have : after < p.id := by omega
      simp [hp, this]
    · simp [hp]
  rw [sub]
  refine List.length_filter_lt_length_iff_exists.2 ⟨last, ?_, by simp⟩
  exact List.mem_filter.2 ⟨member, by simpa using later⟩

/-- What a scan has done: the batches it handed over, in order, and the number of problems in them
or the failure that ended the scan. -/
structure Scan where
  batches : List (List Problem)
  visited : Except Failure Nat

/-- Hands the rows after an id over in batches. The visitor is told which batch it is given,
counted from 1, and a failure of the visitor ends the scan. -/
def scanFrom (problems : List Problem) (size : Nat)
    (visit : Nat → List Problem → Except Failure Unit) (after : Int) (number visited : Nat) :
    Scan :=
  let batch := nextBatch problems size after
  match _last : batch.getLast? with
  | none => ⟨[], .ok visited⟩
  | some last =>
    match visit number batch with
    | .error failure => ⟨[batch], .error failure⟩
    | .ok () =>
      if batch.length < size then ⟨[batch], .ok (visited + batch.length)⟩
      else
        let rest := scanFrom problems size visit last.id (number + 1) (visited + batch.length)
        ⟨batch :: rest.batches, rest.visited⟩
termination_by (problems.filter fun p => after < p.id).length
decreasing_by exact nextBatch_moves_forward ‹_›

/-- Hands the problems without reports over in ascending order of ids, in batches of `size`, at
least one row each. -/
def scanEmptyProblems (store : Store) (size : Nat)
    (visit : Nat → List Problem → Except Failure Unit) : Scan :=
  match store.emptyProblems with
  | .error failure => ⟨[], .error failure⟩
  | .ok problems => scanFrom problems (max size 1) visit Numeral.minInt64 1 0

end CrashTriage.Store
