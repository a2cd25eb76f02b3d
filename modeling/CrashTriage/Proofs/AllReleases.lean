import CrashTriage.Proofs.HotWindows
import CrashTriage.Proofs.LongTermMeaning

/-!
# All releases

Every bucket refers to a release that is present, and every release to an operating system. So the
list of all releases selects the same buckets as no restriction does, and rankings, sums and totals
come out the same. A store without releases has no buckets, which is why the empty list does no harm
there although a ranking does not even look at the tables for it. The totals of an operating system
that no release matches are taken over all releases, so they are those of no operating system.
-/

namespace CrashTriage

namespace Store

variable {store : Store} {granularity : Granularity} {components : Option (List Int)}
  {clauses : List Clause} {ids : List Int} {token : String}

/-! ### The list of all releases -/

/-- Without an operating system and a version all releases match. -/
lemma Sound.releaseIds_all (sound : store.Sound) :
    store.releaseIds none none = .ok ((rowsOf store.releases).map Release.id) := by
  obtain ⟨releases, foundReleases⟩ := Option.isSome_iff_exists.1 (sound.tables .releases)
  obtain ⟨systems, foundSystems⟩ := Option.isSome_iff_exists.1 (sound.tables .opsys)
  have every : releases.rows.filter (fun release => selects none release.version
      && (systems.find? release.opsys).any fun system => selects none system.name)
      = releases.rows := by
    rw [List.filter_eq_self]
    intro release member
    have refers := sound.release release (by rw [foundReleases]; exact member)
    rw [foundSystems, refers_some] at refers
    obtain ⟨system, present, same⟩ := Register.contains_iff.1 refers
    rw [Register.find?_eq_some_iff.2 ⟨present, same⟩]
    rfl
  unfold releaseIds
  rw [foundReleases, foundSystems, rowsOf_some]
  change Except.ok ((releases.rows.filter _).map Release.id) = _
  rw [every]

/-- The release of a bucket is among them. -/
lemma Sound.release_mem_all (sound : store.Sound) {bucket : Bucket}
    (member : bucket ∈ store.buckets granularity) :
    bucket.release ∈ (rowsOf store.releases).map Release.id := by
  obtain ⟨release, present, same⟩ := refers_iff.1 (sound.bucket granularity bucket member).2
  rw [← same]
  exact List.mem_map_of_mem present

/-! ### Rankings -/

/-- When a list has the releases of all buckets, a query counts the same with it as without a
restriction. -/
lemma countedFor_all (every : ∀ bucket ∈ store.buckets granularity, bucket.release ∈ ids) :
    store.countedFor ⟨granularity, .all, components, clauses⟩
      = store.countedFor ⟨granularity, .only ids, components, clauses⟩ := by
  funext problem
  apply List.filter_congr
  intro bucket member
  have listed : ReleaseSelection.has (.only ids) bucket.release = true :=
    decide_eq_true (every bucket member)
  unfold countsFor RankQuery.counts
  rw [listed]
  rfl

/-- When a query without a restriction can be made with one more list, it fits, and so it does with
the list of some releases. -/
lemma fits_all (granularity : Granularity) (nonempty : components.any (·.isEmpty) = false)
    (bindable : BindableWith components (ids.length + boundTo clauses))
    (shallow : nesting clauses < maxDepth) :
    RankQuery.Fits ⟨granularity, .all, components, clauses⟩ ∧
      (ids ≠ [] → RankQuery.Fits ⟨granularity, .only ids, components, clauses⟩) := by
  have bound := bindable nonempty
  refine ⟨⟨?_, Nat.le_of_lt shallow⟩, fun some => ⟨?_, ?_⟩⟩
  · refine le_trans (Nat.add_le_add_right ?_ _) bound
    exact Nat.le_add_left ..
  · change boundTo (.oneOf .release ids :: clauses) + _ ≤ maxBound
    rw [boundTo_cons]
    exact bound
  · have holds : (Clause.oneOf .release ids).isNever = false := by
      rw [Clause.isNever_oneOf, List.isEmpty_eq_false_iff]
      exact some
    change nesting (.oneOf .release ids :: clauses) ≤ maxDepth
    rw [nesting_cons holds]
    exact shallow

/-- A ranking over a list with the releases of all buckets is the one without a restriction, within
the limits of statements. -/
lemma Sound.rank_all (sound : store.Sound)
    (every : ∀ bucket ∈ store.buckets granularity, bucket.release ∈ ids)
    (bindable : BindableWith components (ids.length + boundTo clauses))
    (shallow : nesting clauses < maxDepth) :
    store.rank ⟨granularity, .all, components, clauses⟩
      = store.rank ⟨granularity, .only ids, components, clauses⟩ := by
  have counted : store.countedFor ⟨granularity, .all, components, clauses⟩
      = store.countedFor ⟨granularity, .only ids, components, clauses⟩ := countedFor_all every
  have listed : store.lists ⟨granularity, .all, components, clauses⟩
      = store.lists ⟨granularity, .only ids, components, clauses⟩ := by
    funext problem
    unfold lists
    rw [counted]
    rfl
  cases none : components.any (·.isEmpty) with
  | true =>
    rw [rank_of_isEmpty store (by simp [RankQuery.isEmpty, none]),
      rank_of_isEmpty store (by simp [RankQuery.isEmpty, none])]
  | false =>
    have nonempty : RankQuery.isEmpty ⟨granularity, .all, components, clauses⟩ = false := none
    obtain ⟨fitsAll, fitsOnly⟩ := fits_all granularity none bindable shallow
    have holds (releases : ReleaseSelection)
        (fits : RankQuery.Fits ⟨granularity, releases, components, clauses⟩) :
        store.Holds ⟨granularity, releases, components, clauses⟩ :=
      ⟨fits, sound.tables _, sound.tables _, sound.tables _, fun _ => sound.tables _⟩
    cases ids with
    | nil =>
      -- there are no buckets, so the tables are read for nothing
      have uncounted (problem : Problem) :
          store.countedFor ⟨granularity, .all, components, clauses⟩ problem = [] :=
        List.filter_eq_nil_iff.2 fun bucket member => absurd (every bucket member) List.not_mem_nil
      have unread : store.rank ⟨granularity, .only [], components, clauses⟩ = .ok [] :=
        rank_of_isEmpty store rfl
      obtain ⟨rows, ranked⟩ := exists_rank_of_exact (holds .all fitsAll) fun problem _ =>
        ⟨0, by rw [uncounted problem, List.map_nil, Total.ofTallies_nil]⟩
      have shape := (rank_eq_of_ok ranked).1
      rw [counted, listed, ← (rank_eq_of_ok unread).1] at shape
      rw [ranked, shape, unread]
    | cons id rest =>
      rw [rank_of_holds nonempty (holds .all fitsAll),
        rank_of_holds (by simpa [RankQuery.isEmpty, ReleaseSelection.isEmpty] using none)
          (holds (.only (id :: rest)) (fitsOnly (List.cons_ne_nil _ _))), counted, listed]

/-- So is a hot ranking. -/
lemma Sound.hotProblems_all (sound : store.Sound)
    (every : ∀ bucket ∈ store.buckets (.ofToken token), bucket.release ∈ ids)
    (bindable : BindableWith components (ids.length + 1)) (cutoff : Option Date) (today : Date) :
    store.hotProblems token .all components cutoff today
      = store.hotProblems token (.only ids) components cutoff today := by
  unfold hotProblems hotQuery
  refine congrArg _ (funext fun standard => sound.rank_all every bindable ?_)
  show 5 < maxDepth
  decide

/-- So is a long-term ranking. -/
lemma Sound.longTermProblems_all (sound : store.Sound)
    (every : ∀ bucket ∈ store.buckets (.ofToken token), bucket.release ∈ ids)
    (bindable : BindableWith components (ids.length + 2)) (today : Date) :
    store.longTermProblems token .all components today
      = store.longTermProblems token (.only ids) components today := by
  unfold longTermProblems longTermQuery
  refine congrArg _ (funext fun last => ?_)
  rw [sound.rank_all every bindable]
  show 7 < maxDepth
  decide

/-- So are sums by problem. -/
lemma Sound.sumCounts_all (sound : store.Sound)
    (every : ∀ bucket ∈ store.buckets granularity, bucket.release ∈ ids)
    {problems : Option (List Int)} (bindable : BindableWith problems ids.length) :
    store.sumCounts problems .all granularity
      = store.sumCounts problems (.only ids) granularity := by
  unfold sumCounts
  cases problems with
  | none =>
    have plain : BindableWith none (ids.length + boundTo []) := fun _ => bindable rfl
    simp only [sound.rank_all every plain (by decide)]
  | some named =>
    cases empty : named.isEmpty with
    | true => simp only [Option.any_some, empty, if_true]
    | false =>
      have bound : BindableWith none (ids.length + boundTo [.oneOf .reportProblem named]) :=
        fun _ => bindable empty
      have shallow : nesting [.oneOf .reportProblem named] < maxDepth := by
        rw [nesting_cons (by rw [Clause.isNever_oneOf, empty])]
        decide
      simp only [sound.rank_all every bound shallow]

/-! ### Totals of an operating system -/

/-- When no release matches, the totals cover all releases. -/
lemma scope_of_unmatched {opsys version : Option String}
    (unmatched : store.releaseIds opsys version = .ok []) :
    store.scope opsys version = .ok .all := by
  unfold scope
  rw [unmatched]
  rfl

/-- The releases in a scope can be bound. -/
lemma length_le_of_scope {opsys version : Option String} {releases : ReleaseSelection}
    (matched : store.releaseIds opsys version = .ok ids)
    (scope : store.scope opsys version = .ok releases) : ids.length ≤ maxBound := by
  unfold Store.scope at scope
  rw [matched, ok_bind] at scope
  obtain ⟨_, bindable, -⟩ := bind_eq_ok_iff.1 scope
  rw [bindable_eq_ok_iff] at bindable
  cases ids with
  | nil => exact Nat.zero_le _
  | cons id rest => exact bindable

/-- Without an operating system and a version the totals cover the releases of all buckets. -/
lemma Sound.has_of_scope_all (sound : store.Sound) {releases : ReleaseSelection}
    (scope : store.scope none none = .ok releases) {bucket : Bucket}
    (member : bucket ∈ store.buckets granularity) : releases.has bucket.release = true := by
  unfold Store.scope at scope
  rw [sound.releaseIds_all, ok_bind] at scope
  obtain ⟨_, -, scope⟩ := bind_eq_ok_iff.1 scope
  rw [← pure_eq_ok_iff.1 scope]
  split
  · rfl
  · exact decide_eq_true (sound.release_mem_all member)

/-- They are covered as long as the list of all releases can be bound. -/
lemma Sound.exists_scope_all (sound : store.Sound)
    (few : (rowsOf store.releases).length ≤ maxBound) :
    ∃ releases, store.scope none none = .ok releases := by
  unfold scope
  rw [sound.releaseIds_all, ok_bind]
  refine ⟨_, bind_eq_ok_iff.2 ⟨(), bindable_eq_ok_iff.2 ?_, rfl⟩⟩
  split
  · exact Nat.zero_le _
  · rw [ReleaseSelection.bound, List.length_map]
    exact few

section
variable {opsys version opsys' version' : Option String} {releases releases' : ReleaseSelection}

/-- The history sum depends on the releases of its scope by which buckets they select. -/
lemma historySum_congr (scope : store.scope opsys version = .ok releases)
    (scope' : store.scope opsys' version' = .ok releases')
    (same : ∀ bucket ∈ store.buckets granularity,
      releases.has bucket.release = releases'.has bucket.release) :
    store.historySum opsys version granularity = store.historySum opsys' version' granularity := by
  unfold historySum
  rw [scope, scope']
  unfold buckets at same
  cases table : store.history.get granularity with
  | none => rfl
  | some ledger =>
    rw [table, entriesOf_some] at same
    simp only [present, bind, Except.bind, List.filter_congr same]

/-- So do the counts by component. -/
lemma componentCounts_congr (scope : store.scope opsys version = .ok releases)
    (scope' : store.scope opsys' version' = .ok releases')
    (same : ∀ bucket ∈ store.buckets granularity,
      releases.has bucket.release = releases'.has bucket.release) :
    store.componentCounts opsys version granularity
      = store.componentCounts opsys' version' granularity := by
  unfold componentCounts
  rw [scope, scope']
  unfold buckets at same
  cases table : store.history.get granularity with
  | none => rfl
  | some ledger =>
    rw [table, entriesOf_some] at same
    simp only [present, bind, Except.bind, List.filter_congr same]

end

/-! ### The same answers -/

/-- After any run of commands that enter, link, record or remove rows, the list of all releases
selects what no restriction selects: every ranking, hot ranking, long-term ranking and sum by
problem has the same result with both, whether it succeeds or fails and even when there is no
release, as long as the values can be bound and the clauses of the ranking leave room for one more.
The history sum and the counts by component of an operating system and version that no release
matches are those without operating system and version. -/
theorem all_releases_are_those_listed (commands : List Command)
    (keeps : ∀ command ∈ commands, command.keepsTables = true) :
    ∃ ids, (migrated.run commands).releaseIds none none = .ok ids ∧
      ids = (rowsOf (migrated.run commands).releases).map Release.id ∧
      (∀ granularity components clauses, BindableWith components (ids.length + boundTo clauses) →
        nesting clauses < maxDepth →
        (migrated.run commands).rank ⟨granularity, .all, components, clauses⟩
          = (migrated.run commands).rank ⟨granularity, .only ids, components, clauses⟩) ∧
      (∀ token components cutoff today, BindableWith components (ids.length + 1) →
        (migrated.run commands).hotProblems token .all components cutoff today
          = (migrated.run commands).hotProblems token (.only ids) components cutoff today) ∧
      (∀ token components today, BindableWith components (ids.length + 2) →
        (migrated.run commands).longTermProblems token .all components today
          = (migrated.run commands).longTermProblems token (.only ids) components today) ∧
      (∀ problems granularity, BindableWith problems ids.length →
        (migrated.run commands).sumCounts problems .all granularity
          = (migrated.run commands).sumCounts problems (.only ids) granularity) ∧
      ∀ opsys version, (migrated.run commands).releaseIds opsys version = .ok [] →
        ids.length ≤ maxBound → ∀ granularity,
          (migrated.run commands).historySum opsys version granularity
              = (migrated.run commands).historySum none none granularity ∧
            (migrated.run commands).componentCounts opsys version granularity
              = (migrated.run commands).componentCounts none none granularity := by
  have sound := sound_migrated.run keeps
  have every (granularity : Granularity) (bucket : Bucket)
      (member : bucket ∈ (migrated.run commands).buckets granularity) :
      bucket.release ∈ (rowsOf (migrated.run commands).releases).map Release.id :=
    sound.release_mem_all member
  refine ⟨_, sound.releaseIds_all, rfl, ?_, ?_, ?_, ?_, ?_⟩
  · intro granularity components clauses bindable shallow
    exact sound.rank_all (every granularity) bindable shallow
  · intro token components cutoff today bindable
    exact sound.hotProblems_all (every (.ofToken token)) bindable cutoff today
  · intro token components today bindable
    exact sound.longTermProblems_all (every (.ofToken token)) bindable today
  · intro problems granularity bindable
    exact sound.sumCounts_all (every granularity) bindable
  · intro opsys version unmatched few granularity
    rw [List.length_map] at few
    obtain ⟨releases, scope⟩ := sound.exists_scope_all few
    have same (bucket : Bucket) (member : bucket ∈ (migrated.run commands).buckets granularity) :
        ReleaseSelection.all.has bucket.release = releases.has bucket.release :=
      (sound.has_of_scope_all scope member).symm
    exact ⟨historySum_congr (scope_of_unmatched unmatched) scope same,
      componentCounts_congr (scope_of_unmatched unmatched) scope same⟩

/-- Commands that enter one release. -/
def oneRelease : List Command := [.insertOpSys "linux", .insertRelease 1 "6.1"]

/-- The clause that a problem first occurred when it last did or before. -/
def occurredInOrder : Clause := .compare .firstOccurrence .le (.column .lastOccurrence)

/-- As many clauses as a ranking of all releases takes are one too many for the list of the one
release that there is. -/
theorem clauses_leave_no_room :
    (migrated.run oneRelease).releaseIds none none = .ok [1] ∧
      (∃ rows, (migrated.run oneRelease).rank
        ⟨.weekly, .all, none, List.replicate 996 occurredInOrder⟩ = .ok rows) ∧
      (migrated.run oneRelease).rank
        ⟨.weekly, .only [1], none, List.replicate 996 occurredInOrder⟩ = .error .tooDeep := by
  have hold : (List.replicate 996 occurredInOrder).any Clause.isNever = false := by
    rw [List.any_replicate]
    rfl
  have bound : boundTo (List.replicate 996 occurredInOrder) = 0 := by
    rw [boundTo, List.map_replicate, List.sum_replicate]
    exact Nat.mul_zero _
  have depth : nesting (List.replicate 996 occurredInOrder) = maxDepth := by
    rw [nesting_of_hold hold, List.length_replicate]
    rfl
  have holds : (Clause.oneOf .release [1]).isNever = false := rfl
  have before : leading (.oneOf .release [1] :: List.replicate 996 occurredInOrder) ≤ 997 := by
    refine le_trans (leading_le_length _) ?_
    rw [List.length_cons, List.length_replicate]
  refine ⟨rfl, exists_rank_of_exact ⟨⟨?_, depth.le⟩, rfl, rfl, rfl, fun _ => rfl⟩
    fun problem member => absurd member List.not_mem_nil, rank_of_joined rfl ?_ ?_ ?_ rfl rfl rfl⟩
  · unfold RankQuery.bound RankQuery.conditions
    rw [bound]
    decide
  · unfold RankQuery.bound RankQuery.conditions
    rw [boundTo_cons, bound]
    decide
  · exact le_trans (Nat.add_le_add_right before 2) (by decide)
  · unfold RankQuery.conditions
    rw [nesting_cons holds, depth]
    decide

/-- With one release in the store, no restriction is the list of that release, and an operating
system that is not there has the occurrences of the one that is. -/
theorem all_releases_of_split_week :
    (migrated.run reusedId).rank ⟨.weekly, .all, none, []⟩
        = (migrated.run reusedId).rank ⟨.weekly, .only [1], none, []⟩ ∧
      (migrated.run reusedId).releaseIds (some "bsd") none = .ok [] ∧
      (migrated.run reusedId).historySum (some "bsd") none .monthly = .ok 7 := by
  obtain ⟨ids, -, rfl, rankings, -, -, -, totals⟩ :=
    all_releases_are_those_listed reusedId (by decide)
  have unmatched : (migrated.run reusedId).releaseIds (some "bsd") none = .ok [] := rfl
  have seven : (migrated.run reusedId).historySum none none .monthly = .ok 7 := rfl
  exact ⟨rankings .weekly none [] (by decide) (by decide), unmatched,
    (totals _ _ unmatched (by decide) .monthly).1.trans seven⟩

end Store

end CrashTriage
