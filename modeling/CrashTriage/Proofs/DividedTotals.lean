import CrashTriage.Proofs.ConservedTotals
import CrashTriage.Proofs.Integrity

/-!
# Totals by operating system and version

Releases are told apart by operating system and version, so the list of all releases falls apart
into those of the operating systems, and each of these into single versions. The buckets in a scope
fall apart with it. An operating system without releases has no part in this, since its totals are
those of all releases, and neither has an empty name or version, which selects everything.
-/

namespace CrashTriage

/-- The results for the members of a list can all be read and add up to a number. -/
def SumsTo {γ : Type} (groups : List γ) (result : γ → Except Failure Int) (n : Int) : Prop :=
  ∃ part : γ → Int, (∀ group ∈ groups, result group = .ok (part group)) ∧
    (groups.map part).sum = n

/-- The count that rows show for the component with an id, or zero when they do not show it. -/
def ComponentCount.countIn (component : Int) (rows : List ComponentCount) : Int :=
  (rows.find? fun row => row.component = component).elim 0 ComponentCount.count

namespace Store

variable {store : Store} {granularity : Granularity}

/-! ### Releases by operating system -/

/-- The releases of an operating system. -/
def releasesOf (store : Store) (system : OpSys) : List Release :=
  (rowsOf store.releases).filter (·.opsys = system.id)

/-- The operating systems that have a release. -/
def systemsWithReleases (store : Store) : List OpSys :=
  (rowsOf store.opsys).filter fun system => !(store.releasesOf system).isEmpty

/-- Whether a release belongs to an operating system that an optional name selects. -/
def isOf (store : Store) (name : Option String) (release : Release) : Bool :=
  (store.opsys.bind (·.find? release.opsys)).any fun system => selects name system.name

/-- A store in which neither an operating system nor a release has an empty name. -/
structure NoEmptyNames (store : Store) : Prop where
  opsys : ∀ system ∈ rowsOf store.opsys, system.name ≠ ""
  release : ∀ release ∈ rowsOf store.releases, release.version ≠ ""

lemma mem_releasesOf_iff {system : OpSys} {release : Release} :
    release ∈ store.releasesOf system ↔
      release ∈ rowsOf store.releases ∧ release.opsys = system.id := by
  rw [releasesOf, List.mem_filter, decide_eq_true_iff]

lemma mem_systemsWithReleases_iff {system : OpSys} :
    system ∈ store.systemsWithReleases ↔
      system ∈ rowsOf store.opsys ∧ store.releasesOf system ≠ [] := by
  rw [systemsWithReleases, List.mem_filter, Bool.not_eq_true', List.isEmpty_eq_false_iff]

/-- Rows of a table with the same id are the same row. -/
lemma eq_of_id_eq {ρ : Type} [Identified ρ] {register : Option (Register ρ)} {a b : ρ}
    (ha : a ∈ rowsOf register) (hb : b ∈ rowsOf register)
    (same : Identified.id a = Identified.id b) : a = b := by
  cases register with
  | none => cases ha
  | some table => exact Register.eq_of_id_eq ha hb same

/-- The tables are present in a sound store, so the release ids can be read. -/
lemma Sound.releaseIds_eq (sound : store.Sound) (name version : Option String) :
    store.releaseIds name version = .ok (((rowsOf store.releases).filter fun release =>
      selects version release.version && store.isOf name release).map Release.id) := by
  obtain ⟨releases, foundReleases⟩ := Option.isSome_iff_exists.1 (sound.tables .releases)
  obtain ⟨systems, foundSystems⟩ := Option.isSome_iff_exists.1 (sound.tables .opsys)
  unfold releaseIds isOf
  rw [foundReleases, foundSystems]
  rfl

/-- A release of a sound store belongs to one operating system, by whose name it is selected. -/
lemma Sound.exists_system (sound : store.Sound) {release : Release}
    (member : release ∈ rowsOf store.releases) :
    ∃ system ∈ rowsOf store.opsys, release.opsys = system.id ∧
      ∀ name, store.isOf name release = selects name system.name := by
  obtain ⟨systems, found⟩ := Option.isSome_iff_exists.1 (sound.tables .opsys)
  obtain ⟨system, present, same⟩ := refers_iff.1 (sound.release release member)
  refine ⟨system, present, same.symm, fun name => ?_⟩
  rw [found] at present
  unfold isOf
  rw [found, Option.bind_some, Register.find?_eq_some_iff.2 ⟨present, same⟩, Option.any_some]

/-- The name of an operating system selects its releases. -/
lemma Sound.isOf_name (sound : store.Sound) (named : store.WellNamed) {system : OpSys}
    (member : system ∈ rowsOf store.opsys) (proper : system.name ≠ "") {release : Release}
    (among : release ∈ rowsOf store.releases) :
    store.isOf (some system.name) release = decide (release.opsys = system.id) := by
  obtain ⟨owner, present, own, test⟩ := sound.exists_system among
  rw [test, Bool.eq_iff_iff, selects_some_iff proper, decide_eq_true_iff, own]
  constructor
  · intro alike
    by_contra differ
    have apart : owner ≠ system := fun equal => differ (congrArg OpSys.id equal)
    exact named.opsys.forall present member apart alike
  · intro alike
    rw [eq_of_id_eq present member alike]

lemma Sound.releaseIds_name (sound : store.Sound) (named : store.WellNamed) {system : OpSys}
    (member : system ∈ rowsOf store.opsys) (proper : system.name ≠ "") :
    store.releaseIds (some system.name) none = .ok ((store.releasesOf system).map Release.id) := by
  have own : (rowsOf store.releases).filter (fun release =>
      selects none release.version && store.isOf (some system.name) release)
        = store.releasesOf system :=
    List.filter_congr fun release among => sound.isOf_name named member proper among
  rw [sound.releaseIds_eq, own]

/-- The name of an operating system and the version of one of its releases select that release. -/
lemma Sound.releaseIds_version (sound : store.Sound) (named : store.WellNamed) {system : OpSys}
    (member : system ∈ rowsOf store.opsys) (proper : system.name ≠ "") {release : Release}
    (own : release ∈ store.releasesOf system) (versioned : release.version ≠ "") :
    store.releaseIds (some system.name) (some release.version) = .ok [release.id] := by
  obtain ⟨among, same⟩ := mem_releasesOf_iff.1 own
  obtain ⟨ids, read, short⟩ := named.releaseIds_length_le_one sound proper versioned
  have listed := Except.ok.inj (read.symm.trans (sound.releaseIds_eq _ _))
  have here : release.id ∈ ids := by
    rw [listed]
    refine List.mem_map_of_mem (List.mem_filter.2 ⟨among, ?_⟩)
    rw [Bool.and_eq_true, selects_some_iff versioned, sound.isOf_name named member proper among,
      decide_eq_true_iff]
    exact ⟨rfl, same⟩
  obtain ⟨only, rfl⟩ := List.length_eq_one_iff.1
    (Nat.le_antisymm short (List.length_pos_of_mem here))
  rw [read, List.mem_singleton.1 here]

/-- A name and a version select the releases that both of them select. -/
lemma Sound.releaseIds_inter (sound : store.Sound) (name version : Option String) :
    ∃ ofName ofVersion, store.releaseIds name none = .ok ofName ∧
      store.releaseIds none version = .ok ofVersion ∧
      store.releaseIds name version = .ok (ofName.filter (· ∈ ofVersion)) := by
  refine ⟨_, _, sound.releaseIds_eq name none, sound.releaseIds_eq none version, ?_⟩
  rw [sound.releaseIds_eq name version, List.filter_map, List.filter_filter]
  congr 2
  refine List.filter_congr fun release among => ?_
  obtain ⟨system, -, -, test⟩ := sound.exists_system among
  have selected : (release.id ∈ ((rowsOf store.releases).filter fun other =>
      selects version other.version && store.isOf none other).map Release.id) ↔
        selects version release.version = true := by
    rw [List.mem_map]
    constructor
    · rintro ⟨other, member, same⟩
      obtain ⟨there, both⟩ := List.mem_filter.1 member
      rw [eq_of_id_eq there among same, Bool.and_eq_true] at both
      exact both.1
    · intro pass
      refine ⟨release, List.mem_filter.2 ⟨among, ?_⟩, rfl⟩
      rw [test, Bool.and_eq_true]
      exact ⟨pass, rfl⟩
  rw [Bool.eq_iff_iff, Function.comp_apply, Bool.and_eq_true, Bool.and_eq_true, decide_eq_true_iff,
    selected]
  rfl

/-! ### Totals in a scope -/

/-- A history sum is read when the total of the buckets in its scope is exact. -/
lemma historySum_of_exact {opsys version : Option String} {releases : ReleaseSelection} {n : Int}
    (scope : store.scope opsys version = .ok releases)
    (hasBuckets : store.has (.history granularity) = true)
    (total : Total.ofTallies (((store.buckets granularity).filter fun bucket =>
      releases.has bucket.release).map Bucket.count) = .exact n) :
    store.historySum opsys version granularity = .ok n := by
  obtain ⟨ledger, found⟩ := Option.isSome_iff_exists.1 hasBuckets
  unfold buckets at total
  rw [found, entriesOf_some] at total
  unfold historySum
  rw [scope, found]
  exact Total.read_eq_ok_iff.2 total

/-- The buckets of a component are those in the scope among the buckets of its reports. -/
lemma componentBuckets_eq_filter (releases : ReleaseSelection) (component : Component) :
    store.componentBuckets granularity releases component
      = ((store.buckets granularity).filter
          (store.ofReport fun report => report.component = component.id)).filter
            fun bucket => releases.has bucket.release := by
  rw [List.filter_filter]
  exact List.filter_congr fun bucket _ => Bool.and_comm _ _

/-- What counts by component that can be read show: the components with a bucket in the scope, with
the exact sums of their buckets, in order. -/
lemma Sound.componentCounts_eq_ok_iff (sound : store.Sound) {opsys version : Option String}
    {rows : List ComponentCount} :
    store.componentCounts opsys version granularity = .ok rows ↔
      ∃ releases, store.scope opsys version = .ok releases ∧
        (∀ component ∈ rowsOf store.components, Total.ofTallies
          ((store.componentBuckets granularity releases component).map Bucket.count) = .exact
            (exactSum ((store.componentBuckets granularity releases component).map
              Bucket.count))) ∧
        ((store.listedComponents granularity releases).map
          (store.componentRow granularity releases)).mergeSort ComponentCount.countLE = rows := by
  constructor
  · intro read
    have ran := read
    unfold componentCounts at ran
    obtain ⟨releases, scope, -⟩ := bind_eq_ok_iff.1 ran
    rw [componentCounts_of_scope scope (sound.tables _) (sound.tables _) (sound.tables _)] at read
    split at read
    · cases read
    · obtain ⟨unsorted, totals, sorted⟩ := map_eq_ok_iff.1 read
      obtain ⟨shape, exact⟩ := read_totals (fun (component : Component) n =>
        ComponentCount.mk component.id component.name n) totals
      refine ⟨releases, scope, fun component member => ?_, ?_⟩
      · by_cases none : store.componentBuckets granularity releases component = []
        · rw [none]
          rfl
        · exact exact component (mem_listedComponents_iff.2 ⟨member, none⟩)
      · rw [← sorted, shape]
        rfl
  · rintro ⟨releases, scope, exact, rfl⟩
    exact componentCounts_eq_of_exact scope (sound.tables _) (sound.tables _) (sound.tables _)
      exact

/-- The count that counts by component show for a component is the exact sum of its buckets, also
when it has none and is not shown. -/
lemma countIn_componentRows {releases : ReleaseSelection} {component : Component}
    (member : component ∈ rowsOf store.components) :
    ComponentCount.countIn component.id (((store.listedComponents granularity releases).map
        (store.componentRow granularity releases)).mergeSort ComponentCount.countLE)
      = exactSum ((store.componentBuckets granularity releases component).map Bucket.count) := by
  unfold ComponentCount.countIn
  cases found : List.find? (fun row => decide (row.component = component.id))
      (((store.listedComponents granularity releases).map
        (store.componentRow granularity releases)).mergeSort ComponentCount.countLE) with
  | some row =>
    have own : row.component = component.id := by simpa using List.find?_some found
    have among := List.mem_of_find?_eq_some found
    rw [List.mem_mergeSort, List.mem_map] at among
    obtain ⟨shown, listed, rfl⟩ := among
    rw [← eq_of_id_eq (mem_listedComponents_iff.1 listed).1 member own]
    rfl
  | none =>
    rw [List.find?_eq_none] at found
    have empty : store.componentBuckets granularity releases component = [] := by
      by_contra some
      have listed := mem_listedComponents_iff.2 ⟨member, some⟩
      refine found (store.componentRow granularity releases component) ?_ (decide_eq_true rfl)
      rw [List.mem_mergeSort]
      exact List.mem_map_of_mem listed
    rw [empty]
    rfl

/-! ### Scopes that are divided -/

/-- A scope is divided among groups when no release is in the scopes of two of them, and a bucket is
in the scope when it is in that of some group. -/
structure Divides {γ : Type} (store : Store) (whole : ReleaseSelection) (groups : List γ)
    (part : γ → ReleaseSelection) : Prop where
  apart : groups.Pairwise fun a b => ∀ id, (part a).has id = true → (part b).has id = false
  cover : ∀ granularity, ∀ bucket ∈ store.buckets granularity,
    (whole.has bucket.release = true ↔ ∃ group ∈ groups, (part group).has bucket.release = true)

section
variable {γ : Type} {whole : ReleaseSelection} {groups : List γ} {part : γ → ReleaseSelection}

/-- When the total of the buckets in a scope is exact, so are the totals of the groups among which
it is divided, and they add up to it. This holds of any choice of buckets. -/
lemma Divides.totals (divides : store.Divides whole groups part) (sound : store.Sound)
    {chosen : List Bucket} (among : ∀ bucket ∈ chosen, bucket ∈ store.buckets granularity) {n : Int}
    (total : Total.ofTallies ((chosen.filter fun bucket => whole.has bucket.release).map
      Bucket.count) = .exact n) :
    (∀ group ∈ groups, Total.ofTallies
      ((chosen.filter fun bucket => (part group).has bucket.release).map Bucket.count) = .exact
        (exactSum ((chosen.filter fun bucket => (part group).has bucket.release).map
          Bucket.count))) ∧
    (groups.map fun group => exactSum ((chosen.filter fun bucket =>
      (part group).has bucket.release).map Bucket.count)).sum = n := by
  -- what is in the scope of a group is taken from what is in the whole scope
  have within (group : γ) (member : group ∈ groups) :
      chosen.filter (fun bucket => (part group).has bucket.release)
        = (chosen.filter fun bucket => whole.has bucket.release).filter fun bucket =>
          (part group).has bucket.release := by
    rw [List.filter_filter]
    refine List.filter_congr fun bucket inside => ?_
    cases here : (part group).has bucket.release with
    | false => rfl
    | true =>
      rw [(divides.cover granularity bucket (among bucket inside)).2 ⟨group, member, here⟩]
      rfl
  constructor
  · intro group member
    rw [within group member]
    refine Total.ofTallies_filter (fun bucket inside => ?_) total _
    exact sound.positive granularity bucket (among bucket (List.mem_filter.1 inside).1)
  · have sums : (groups.map fun group => exactSum ((chosen.filter fun bucket =>
        (part group).has bucket.release).map Bucket.count))
        = groups.map fun group => (((chosen.filter fun bucket => whole.has bucket.release).filter
          fun bucket => (part group).has bucket.release).map
            (Tally.exactPart ∘ Bucket.count)).sum := by
      refine List.map_congr_left fun group member => ?_
      rw [within group member, exactSum_eq_sum, List.map_map]
    rw [sums, (Total.ofTallies_eq_exact_iff.1 total).2.1, exactSum_eq_sum, List.map_map]
    refine sum_regroup (fun group (bucket : Bucket) => (part group).has bucket.release) ?_ ?_
    · exact divides.apart.imp fun differ (bucket : Bucket) _ here => differ bucket.release here
    · intro bucket inside
      obtain ⟨member, here⟩ := List.mem_filter.1 inside
      exact (divides.cover granularity bucket (among bucket member)).1 here

variable {opsys version : Option String} {systemOf versionOf : γ → Option String}

/-- When the history sum of a scope can be read, so can those of the groups among which it is
divided, and they add up to it. -/
lemma Divides.historySum (divides : store.Divides whole groups part) (sound : store.Sound)
    (scope : store.scope opsys version = .ok whole)
    (scopes : ∀ group ∈ groups, store.scope (systemOf group) (versionOf group) = .ok (part group))
    {n : Int} (read : store.historySum opsys version granularity = .ok n) :
    SumsTo groups (fun group => store.historySum (systemOf group) (versionOf group) granularity)
      n := by
  obtain ⟨releases, scope', total⟩ := exists_scope_of_historySum read
  obtain rfl : whole = releases := Except.ok.inj (scope.symm.trans scope')
  obtain ⟨exact, sum⟩ := divides.totals sound (fun _ member => member) total
  exact ⟨_, fun group member => historySum_of_exact (scopes group member) (sound.tables _)
    (exact group member), sum⟩

/-- So it is with the buckets of a component. -/
lemma Divides.componentTotals (divides : store.Divides whole groups part) (sound : store.Sound)
    {component : Component} {n : Int}
    (total : Total.ofTallies
      ((store.componentBuckets granularity whole component).map Bucket.count) = .exact n) :
    (∀ group ∈ groups, Total.ofTallies
      ((store.componentBuckets granularity (part group) component).map Bucket.count) = .exact
        (exactSum ((store.componentBuckets granularity (part group) component).map
          Bucket.count))) ∧
    (groups.map fun group => exactSum
      ((store.componentBuckets granularity (part group) component).map Bucket.count)).sum = n := by
  simp only [componentBuckets_eq_filter] at total ⊢
  exact divides.totals sound (fun bucket inside => (List.mem_filter.1 inside).1) total

/-- When the counts by component of a scope can be read, so can those of the groups among which it
is divided, and for every component they add up. -/
lemma Divides.componentCounts (divides : store.Divides whole groups part) (sound : store.Sound)
    (scope : store.scope opsys version = .ok whole)
    (scopes : ∀ group ∈ groups, store.scope (systemOf group) (versionOf group) = .ok (part group))
    {rows : List ComponentCount}
    (read : store.componentCounts opsys version granularity = .ok rows) {component : Component}
    (member : component ∈ rowsOf store.components) :
    SumsTo groups (fun group => ComponentCount.countIn component.id <$>
      store.componentCounts (systemOf group) (versionOf group) granularity)
      (ComponentCount.countIn component.id rows) := by
  obtain ⟨releases, scope', exact, rfl⟩ := sound.componentCounts_eq_ok_iff.1 read
  obtain rfl : whole = releases := Except.ok.inj (scope.symm.trans scope')
  refine ⟨fun group => exactSum
    ((store.componentBuckets granularity (part group) component).map Bucket.count), ?_, ?_⟩
  · intro group among
    have counts := sound.componentCounts_eq_ok_iff.2 ⟨part group, scopes group among,
      fun other present => (divides.componentTotals sound (exact other present)).1 group among, rfl⟩
    exact map_eq_ok_iff.2 ⟨_, counts, countIn_componentRows member⟩
  · rw [countIn_componentRows member]
    exact (divides.componentTotals sound (exact component member)).2

end

/-! ### Systems and versions divide the releases -/

/-- Different operating systems have different releases. -/
lemma disjoint_releasesOf {a b : OpSys} (differ : a.id ≠ b.id) :
    List.Disjoint ((store.releasesOf a).map Release.id) ((store.releasesOf b).map Release.id) := by
  intro id first second
  obtain ⟨release, inFirst, rfl⟩ := List.mem_map.1 first
  obtain ⟨other, inSecond, same⟩ := List.mem_map.1 second
  obtain ⟨there, ownSecond⟩ := mem_releasesOf_iff.1 inSecond
  obtain ⟨here, ownFirst⟩ := mem_releasesOf_iff.1 inFirst
  rw [eq_of_id_eq there here same] at ownSecond
  exact differ (ownFirst.symm.trans ownSecond)

/-- The releases of the operating systems are all releases. -/
lemma Sound.exists_releasesOf_iff (sound : store.Sound) {id : Int} :
    (∃ system ∈ rowsOf store.opsys, id ∈ (store.releasesOf system).map Release.id) ↔
      id ∈ (rowsOf store.releases).map Release.id := by
  constructor
  · rintro ⟨system, -, listed⟩
    obtain ⟨release, own, rfl⟩ := List.mem_map.1 listed
    exact List.mem_map_of_mem (mem_releasesOf_iff.1 own).1
  · intro listed
    obtain ⟨release, among, rfl⟩ := List.mem_map.1 listed
    obtain ⟨system, present, own, -⟩ := sound.exists_system among
    exact ⟨system, present, List.mem_map_of_mem (mem_releasesOf_iff.2 ⟨among, own⟩)⟩

/-- A scope with the releases of all buckets is divided among the operating systems that have a
release. -/
lemma Sound.divides_systems (sound : store.Sound) {whole : ReleaseSelection}
    (covers : ∀ granularity, ∀ bucket ∈ store.buckets granularity,
      whole.has bucket.release = true) :
    store.Divides whole store.systemsWithReleases fun system =>
      .only ((store.releasesOf system).map Release.id) where
  apart := by
    refine ((pairwise_rowsOf store.opsys).filter _).imp fun before id here => ?_
    exact decide_eq_false
      (disjoint_releasesOf (Int.ne_of_lt before) (of_decide_eq_true here))
  cover granularity bucket member := by
    refine ⟨fun _ => ?_, fun _ => covers granularity bucket member⟩
    obtain ⟨system, present, own⟩ :=
      sound.exists_releasesOf_iff.2 (sound.release_mem_all member)
    refine ⟨system, mem_systemsWithReleases_iff.2 ⟨present, ?_⟩, decide_eq_true own⟩
    intro none
    rw [none] at own
    cases own

/-- The scope of an operating system is divided among its releases. -/
lemma divides_releasesOf (system : OpSys) :
    store.Divides (.only ((store.releasesOf system).map Release.id)) (store.releasesOf system)
      fun release => .only [release.id] where
  apart := by
    refine ((pairwise_rowsOf store.releases).filter _).imp fun before id here => ?_
    refine decide_eq_false fun other => Int.ne_of_lt before ?_
    have first := List.mem_singleton.1 (of_decide_eq_true here)
    exact first.symm.trans (List.mem_singleton.1 other)
  cover granularity bucket _ := by
    simp only [ReleaseSelection.has, decide_eq_true_eq, List.mem_map, List.mem_singleton]
    constructor
    · rintro ⟨release, own, same⟩
      exact ⟨release, own, same.symm⟩
    · rintro ⟨release, own, same⟩
      exact ⟨release, own, same.symm⟩

/-- When releases match and can be bound, the totals cover these. -/
lemma scope_of_matched {opsys version : Option String} {ids : List Int}
    (matched : store.releaseIds opsys version = .ok ids) (nonempty : ids ≠ [])
    (few : ids.length ≤ maxBound) : store.scope opsys version = .ok (.only ids) := by
  unfold scope
  rw [matched, ok_bind, List.isEmpty_eq_false_iff.2 nonempty, if_neg Bool.false_ne_true]
  exact bind_eq_ok_iff.2 ⟨(), bindable_eq_ok_iff.2 few, rfl⟩

/-- The list of all releases can be bound only if those of the operating systems can. -/
lemma length_releasesOf_le (system : OpSys) :
    ((store.releasesOf system).map Release.id).length
      ≤ ((rowsOf store.releases).map Release.id).length := by
  rw [List.length_map, List.length_map]
  exact List.length_filter_le _ _

/-! ### Lists and totals fall apart -/

/-- The list of all releases falls apart into the lists of the operating systems, and the list of a
name and a version is what the lists of both have in common. -/
structure ListsDivide (store : Store) : Prop where
  /-- Every release is listed once, in ascending order. -/
  all : store.releaseIds none none = .ok ((rowsOf store.releases).map Release.id)
  ascending : ((rowsOf store.releases).map Release.id).Pairwise (· < ·)
  name : ∀ system ∈ rowsOf store.opsys,
    store.releaseIds (some system.name) none = .ok ((store.releasesOf system).map Release.id)
  union : ∀ id, id ∈ (rowsOf store.releases).map Release.id ↔
    ∃ system ∈ rowsOf store.opsys, id ∈ (store.releasesOf system).map Release.id
  disjoint : (rowsOf store.opsys).Pairwise fun a b =>
    List.Disjoint ((store.releasesOf a).map Release.id) ((store.releasesOf b).map Release.id)
  names : ((rowsOf store.opsys).map OpSys.name).Nodup
  versions : ∀ system, ((store.releasesOf system).map Release.version).Nodup
  inter : ∀ name version, ∃ ofName ofVersion, store.releaseIds name none = .ok ofName ∧
    store.releaseIds none version = .ok ofVersion ∧
    store.releaseIds name version = .ok (ofName.filter (· ∈ ofVersion))

/-- The totals of all releases fall apart into those of the operating systems that have a release,
and those of such an operating system into those of its versions, also component by component. -/
structure TotalsDivide (store : Store) (granularity : Granularity) : Prop where
  history : ∀ n, store.historySum none none granularity = .ok n →
    SumsTo store.systemsWithReleases
      (fun system => store.historySum (some system.name) none granularity) n
  historyOf : ∀ system ∈ store.systemsWithReleases, ∀ n,
    store.historySum (some system.name) none granularity = .ok n →
      SumsTo (store.releasesOf system) (fun release =>
        store.historySum (some system.name) (some release.version) granularity) n
  components : ∀ rows, store.componentCounts none none granularity = .ok rows →
    ∀ component ∈ rowsOf store.components,
      SumsTo store.systemsWithReleases (fun system => ComponentCount.countIn component.id <$>
        store.componentCounts (some system.name) none granularity)
        (ComponentCount.countIn component.id rows)
  componentsOf : ∀ system ∈ store.systemsWithReleases, ∀ rows,
    store.componentCounts (some system.name) none granularity = .ok rows →
      ∀ component ∈ rowsOf store.components,
        SumsTo (store.releasesOf system) (fun release => ComponentCount.countIn component.id <$>
          store.componentCounts (some system.name) (some release.version) granularity)
          (ComponentCount.countIn component.id rows)
  /-- Counts are shown under the names of their components, and zero is not shown. -/
  shown : ∀ opsys version rows, store.componentCounts opsys version granularity = .ok rows →
    ∀ row ∈ rows, 0 < row.count ∧
      ∃ component ∈ rowsOf store.components,
        row.component = component.id ∧ row.name = component.name

/-- The lists of a sound store with proper names fall apart. -/
lemma Sound.listsDivide (sound : store.Sound) (named : store.WellNamed)
    (proper : store.NoEmptyNames) : store.ListsDivide where
  all := sound.releaseIds_all
  ascending := List.pairwise_map.2 (pairwise_rowsOf store.releases)
  name system member := sound.releaseIds_name named member (proper.opsys system member)
  union _ := sound.exists_releasesOf_iff.symm
  disjoint := (pairwise_rowsOf store.opsys).imp fun before =>
    disjoint_releasesOf (Int.ne_of_lt before)
  names := List.pairwise_map.2 named.opsys
  versions system := by
    refine List.pairwise_map.2 ((named.release.filter _).imp_of_mem fun ha hb differ => ?_)
    have own := (mem_releasesOf_iff.1 ha).2
    exact differ (own.trans (mem_releasesOf_iff.1 hb).2.symm)
  inter name version := sound.releaseIds_inter name version

/-- The totals of a sound store with proper names fall apart. -/
lemma Sound.totalsDivide (sound : store.Sound) (named : store.WellNamed)
    (proper : store.NoEmptyNames) (granularity : Granularity) :
    store.TotalsDivide granularity := by
  have listed (system : OpSys) (member : system ∈ store.systemsWithReleases) :
      store.releaseIds (some system.name) none
        = .ok ((store.releasesOf system).map Release.id) := by
    have present := (mem_systemsWithReleases_iff.1 member).1
    exact sound.releaseIds_name named present (proper.opsys system present)
  have scopeOf (system : OpSys) (member : system ∈ store.systemsWithReleases)
      (few : ((store.releasesOf system).map Release.id).length ≤ maxBound) :
      store.scope (some system.name) none
        = .ok (.only ((store.releasesOf system).map Release.id)) := by
    have nonempty := (mem_systemsWithReleases_iff.1 member).2
    refine scope_of_matched (listed system member) ?_ few
    exact fun none => nonempty (List.map_eq_nil_iff.1 none)
  have scopeOfVersion (system : OpSys) (member : system ∈ store.systemsWithReleases)
      (release : Release) (own : release ∈ store.releasesOf system) :
      store.scope (some system.name) (some release.version) = .ok (.only [release.id]) := by
    have present := (mem_systemsWithReleases_iff.1 member).1
    refine scope_of_matched (sound.releaseIds_version named present (proper.opsys system present)
      own (proper.release release (mem_releasesOf_iff.1 own).1)) (List.cons_ne_nil _ _) ?_
    exact of_decide_eq_true rfl
  have scopesOf {whole : ReleaseSelection} (scope : store.scope none none = .ok whole)
      (system : OpSys) (member : system ∈ store.systemsWithReleases) :
      store.scope (some system.name) none
        = .ok (.only ((store.releasesOf system).map Release.id)) := by
    have few := length_le_of_scope sound.releaseIds_all scope
    exact scopeOf system member (le_trans (length_releasesOf_le system) few)
  constructor
  · intro n read
    obtain ⟨whole, scope, -⟩ := exists_scope_of_historySum read
    have systems := sound.divides_systems fun _ _ => sound.has_of_scope_all scope
    exact systems.historySum sound scope (scopesOf scope) read
  · intro system member n read
    obtain ⟨_, scope, -⟩ := exists_scope_of_historySum read
    have few := length_le_of_scope (listed system member) scope
    exact (divides_releasesOf system).historySum sound (scopeOf system member few)
      (scopeOfVersion system member) read
  · intro rows read component present
    obtain ⟨whole, scope, -⟩ := sound.componentCounts_eq_ok_iff.1 read
    have systems := sound.divides_systems fun _ _ => sound.has_of_scope_all scope
    exact systems.componentCounts sound scope (scopesOf scope) read present
  · intro system member rows read component present
    obtain ⟨_, scope, -⟩ := sound.componentCounts_eq_ok_iff.1 read
    have few := length_le_of_scope (listed system member) scope
    exact (divides_releasesOf system).componentCounts sound (scopeOf system member few)
      (scopeOfVersion system member) read present
  · intro opsys version rows read row member
    obtain ⟨releases, -, exact, rfl⟩ := sound.componentCounts_eq_ok_iff.1 read
    rw [List.mem_mergeSort, List.mem_map] at member
    obtain ⟨component, listed, rfl⟩ := member
    obtain ⟨present, nonempty⟩ := mem_listedComponents_iff.1 listed
    have tallies := (Total.ofTallies_eq_exact_iff.1 (exact component present)).1
    exact ⟨sound.exactSum_pos (fun bucket inside => (List.mem_filter.1 inside).1)
      (fun bucket inside => tallies _ (List.mem_map_of_mem inside)) nonempty,
      component, present, rfl, rfl⟩

/-- After any run of commands that enter, link, record or remove rows and leave no empty name and no
empty version, the operating systems partition the releases and the totals. The list of all releases
is the disjoint union of the lists of the operating systems, and a name and a version select what
both of them select. Whenever the history sum of all releases can be read, so can those of the
operating systems that have a release, and they add up to it, and those of the versions of such an
operating system add up to that of the operating system; so do the counts of every component. -/
theorem systems_partition_totals (commands : List Command)
    (keeps : ∀ command ∈ commands, command.keepsTables = true)
    (proper : (migrated.run commands).NoEmptyNames) :
    (migrated.run commands).ListsDivide ∧
      ∀ granularity, (migrated.run commands).TotalsDivide granularity := by
  have sound := sound_migrated.run keeps
  have named := wellNamed_run commands keeps
  exact ⟨sound.listsDivide named proper, sound.totalsDivide named proper⟩

/-- Commands that record occurrences in two versions of one operating system and in one version of
another. -/
def twoSystems : List Command :=
  oneReport newYearsEve ++ [.insertRelease 1 "10", .insertOpSys "bsd", .insertRelease 2 "10",
    .record 1 1 newYearsEve 3, .record 1 2 newYearsEve 4, .record 1 3 newYearsDay 5]

/-- The twelve occurrences fall apart into seven and five, and the seven into three and four. -/
theorem totals_of_twoSystems :
    (migrated.run twoSystems).releaseIds (some "linux") (some "10")
        = .ok ([1, 2].filter (· ∈ [2, 3])) ∧
      (migrated.run twoSystems).historySum none none .weekly = .ok 12 ∧
      SumsTo (migrated.run twoSystems).systemsWithReleases
        (fun system => (migrated.run twoSystems).historySum (some system.name) none .weekly) 12 ∧
      (migrated.run twoSystems).historySum (some "linux") none .weekly = .ok 7 ∧
      SumsTo ((migrated.run twoSystems).releasesOf ⟨1, "linux"⟩) (fun release =>
        (migrated.run twoSystems).historySum (some "linux") (some release.version) .weekly) 7 ∧
      (migrated.run twoSystems).componentCounts none none .weekly = .ok [⟨1, "kernel", 12⟩] ∧
      SumsTo (migrated.run twoSystems).systemsWithReleases (fun system =>
        ComponentCount.countIn 1 <$>
          (migrated.run twoSystems).componentCounts (some system.name) none .weekly) 12 := by
  have opsys : rowsOf (migrated.run twoSystems).opsys = [⟨1, "linux"⟩, ⟨2, "bsd"⟩] := rfl
  have releases : rowsOf (migrated.run twoSystems).releases =
      [⟨1, 1, "9", "ACTIVE"⟩, ⟨2, 1, "10", "ACTIVE"⟩, ⟨3, 2, "10", "ACTIVE"⟩] := rfl
  have proper : (migrated.run twoSystems).NoEmptyNames := by
    constructor
    · rw [opsys]
      decide
    · rw [releases]
      decide
  obtain ⟨lists, totals⟩ := systems_partition_totals twoSystems (by decide) proper
  have linux : (⟨1, "linux"⟩ : OpSys) ∈ (migrated.run twoSystems).systemsWithReleases :=
    List.mem_cons_self
  have all : (migrated.run twoSystems).historySum none none .weekly = .ok 12 := rfl
  have own : (migrated.run twoSystems).historySum (some "linux") none .weekly = .ok 7 := rfl
  have rows : (migrated.run twoSystems).componentCounts none none .weekly
      = .ok [⟨1, "kernel", 12⟩] := by
    have sorted : (migrated.run twoSystems).componentCounts none none .weekly
        = .ok ([⟨1, "kernel", 12⟩].mergeSort ComponentCount.countLE) := rfl
    rw [sorted, List.mergeSort_singleton]
  have kernel : (⟨1, 1, "kernel"⟩ : Component) ∈ rowsOf (migrated.run twoSystems).components :=
    List.mem_cons_self
  refine ⟨?_, all, (totals .weekly).history 12 all, own,
    (totals .weekly).historyOf _ linux 7 own, rows,
    (totals .weekly).components _ rows _ kernel⟩
  obtain ⟨ofName, ofVersion, named, versioned, both⟩ := lists.inter (some "linux") (some "10")
  cases named
  cases versioned
  exact both

end Store

end CrashTriage
