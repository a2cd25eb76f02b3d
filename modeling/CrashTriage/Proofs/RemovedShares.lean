import CrashTriage.Proofs.ComponentFilter
import CrashTriage.Proofs.ConservedTotals
import CrashTriage.Proofs.SplitRankings

/-!
# What a removal takes from rankings

A problem that is removed takes its own row out of every ranking and nothing else. Its links go, its
reports stay behind without a problem, and no bucket changes, so the buckets counted for the other
problems are those counted before, and totals by operating system and component do not even notice.
A report that is removed takes its buckets along. They were counted for its own problem only, whose
count falls by their sum; as counts are positive, the problem is no longer listed exactly when that
sum was all of it.
-/

namespace CrashTriage

/-! ### Rankings of fewer problems -/

/-- A treatment of ranked rows for which it makes no difference whether rows are left out by their
problems before it or after it. -/
def Rowwise (post : List RankedProblem → List RankedProblem) : Prop :=
  ∀ (keep : Problem → Bool) (rows : List RankedProblem),
    post (rows.filter fun row => keep row.problem) = (post rows).filter fun row => keep row.problem

lemma rowwise_reverse : Rowwise List.reverse := fun _ _ => (List.filter_reverse ..).symm

lemma rowwise_prioritize (last : Date) : Rowwise (prioritize last) :=
  fun keep rows => (filter_prioritize last keep rows).symm

/-- A change of all rows of a register that leaves their ids alone changes the row that is found. -/
lemma Register.find?_modify {ρ : Type} [Identified ρ] {register : Register ρ} {change : ρ → ρ}
    {h : ∀ row, Identified.id (change row) = Identified.id row} {id : Int} :
    (register.modify change h).find? id = (register.find? id).map change := by
  simp only [find?, rows_modify, List.find?_map, Function.comp_def, h]

namespace Store

variable {store after : Store} {query : RankQuery} {problem : Problem} {gone : Int → Bool}

/-- A problem stays listed, or unlisted, while the same buckets count and the same components admit
it. -/
lemma lists_congr (counted : after.countedFor query problem = store.countedFor query problem)
    (admitted : query.admits (entriesOf after.componentLinks) problem
      = query.admits (entriesOf store.componentLinks) problem) :
    after.lists query problem = store.lists query problem := by
  unfold lists
  rw [counted, admitted]

/-- A ranking that has succeeded still does when each problem that is left is listed and counted as
before or has a total that can be read. -/
lemma exists_rank_of_left (tables : ∀ table, after.has table = store.has table)
    (left : ∀ problem ∈ rowsOf after.problems, problem ∈ rowsOf store.problems ∧
      ((after.countedFor query problem = store.countedFor query problem ∧
          after.lists query problem = store.lists query problem) ∨
        Total.ofTallies ((after.countedFor query problem).map Bucket.count)
          = .exact (exactSum ((after.countedFor query problem).map Bucket.count))))
    {rows : List RankedProblem} (ranked : store.rank query = .ok rows) :
    ∃ shown, after.rank query = .ok shown := by
  cases empty : query.isEmpty with
  | true => exact ⟨[], rank_of_isEmpty after empty⟩
  | false =>
    refine ⟨_, rank_of_listed_exact empty ((holds_of_rank empty ranked).of_has tables)
      (fun problem member => ?_) fun problem member listed => ?_⟩
    · obtain ⟨present, ⟨same, -⟩ | exact⟩ := left problem member
      · rw [same]
        exact total_ne_overflow_of_rank empty ranked problem present
      · rw [exact]
        nofun
    · obtain ⟨present, ⟨same, lists⟩ | exact⟩ := left problem member
      · rw [lists] at listed
        rw [same]
        exact (rank_eq_of_ok ranked).2 problem present listed
      · exact exact

/-- When some problems are gone and for the others the same buckets count and the same components
admit them, a ranking that has succeeded still does, with the rows of the others. -/
lemma rank_of_fewer {keep : Problem → Bool}
    (tables : ∀ table, after.has table = store.has table)
    (problems : rowsOf after.problems = (rowsOf store.problems).filter keep)
    (counted : ∀ problem, keep problem = true →
      after.countedFor query problem = store.countedFor query problem)
    (admitted : ∀ problem, keep problem = true →
      query.admits (entriesOf after.componentLinks) problem
        = query.admits (entriesOf store.componentLinks) problem)
    {rows : List RankedProblem} (ranked : store.rank query = .ok rows) :
    after.rank query = .ok (rows.filter fun row => keep row.problem) := by
  have stays {problem : Problem} (member : problem ∈ rowsOf after.problems) :
      problem ∈ rowsOf store.problems ∧ keep problem = true := by
    rw [problems] at member
    exact List.mem_filter.1 member
  have listed (problem : Problem) (kept : keep problem = true) :
      after.lists query problem = store.lists query problem :=
    lists_congr (counted problem kept) (admitted problem kept)
  obtain ⟨shown, still⟩ : ∃ shown, after.rank query = .ok shown := by
    refine exists_rank_of_left tables (fun problem member => ?_) ranked
    obtain ⟨present, kept⟩ := stays member
    exact ⟨present, .inl ⟨counted problem kept, listed problem kept⟩⟩
  have all : (shown.filter fun row => keep row.problem) = shown := by
    refine List.filter_eq_self.2 fun row member => ?_
    exact (stays ((exists_row_iff still).1 ⟨row, member, rfl⟩).1).2
  have twice : (rowsOf after.problems).filter keep = (rowsOf store.problems).filter keep := by
    rw [problems, List.filter_filter]
    simp only [Bool.and_self]
  rw [still, ← all, filter_rank_congr keep twice counted listed ranked still]

/-! ### Problems that are removed -/

/-- The reports of a problem that stays are those that it had. -/
lemma problem_detach_eq_iff {id : Int} (stays : gone id = false) (report : Report) :
    (report.detach gone).problem = some id ↔ report.problem = some id := by
  rw [problem_detach, Option.filter_eq_some_iff, stays]
  exact and_iff_left rfl

/-- The same buckets count for a problem that stays. -/
lemma countedFor_removeProblems (removed : store.removeRows .problems gone = .ok after)
    (stays : gone problem.id = false) :
    after.countedFor query problem = store.countedFor query problem := by
  cases removed
  refine List.filter_congr fun bucket _ => ?_
  unfold countsFor
  congr 1
  cases store.reports with
  | none => rfl
  | some reports =>
    change (reports.rows.map (Report.detach gone)).any _ = reports.rows.any _
    rw [List.any_map]
    congr 1
    funext report
    simp only [Function.comp_apply, Report.id_detach, problem_detach_eq_iff stays]

/-- The same components admit a problem that stays. -/
lemma admits_removeProblems (removed : store.removeRows .problems gone = .ok after)
    (stays : gone problem.id = false) :
    query.admits (entriesOf after.componentLinks) problem
      = query.admits (entriesOf store.componentLinks) problem := by
  cases removed
  unfold RankQuery.admits
  congr 1
  funext components
  cases store.componentLinks with
  | none => rfl
  | some links =>
    change (links.rows.filter _).any _ = links.rows.any _
    rw [List.any_filter]
    congr 1
    funext link
    by_cases own : link.problem = problem.id
    · simp [own, stays]
    · simp [own]

/-- Rankings lose the rows of the removed problems. -/
lemma rank_removeProblems (removed : store.removeRows .problems gone = .ok after)
    {rows : List RankedProblem} (ranked : store.rank query = .ok rows) :
    after.rank query = .ok (rows.filter fun row => !gone row.problem.id) := by
  have problems : rowsOf after.problems
      = (rowsOf store.problems).filter fun problem => !gone problem.id := by
    cases removed
    cases store.problems with
    | none => rfl
    | some table => rfl
  have stays {problem : Problem} (kept : (!gone problem.id) = true) : gone problem.id = false := by
    rwa [Bool.not_eq_true'] at kept
  exact rank_of_fewer (has_removeRows removed) problems
    (fun problem kept => countedFor_removeProblems removed (stays kept))
    (fun problem kept => admits_removeProblems removed (stays kept)) ranked

/-- So do hot rankings. -/
lemma hotProblems_removeProblems (removed : store.removeRows .problems gone = .ok after)
    {token : String} {releases : ReleaseSelection} {components : Option (List Int)}
    {cutoff : Option Date} {today : Date} {rows : List RankedProblem}
    (succeeds : store.hotProblems token releases components cutoff today = .ok rows) :
    after.hotProblems token releases components cutoff today
      = .ok (rows.filter fun row => !gone row.problem.id) := by
  obtain ⟨standard, window, ranked⟩ := hotProblems_eq_ok_iff.1 succeeds
  exact hotProblems_eq_ok_iff.2 ⟨standard, window, rank_removeProblems removed ranked⟩

/-- And so do long-term rankings, in which the rows that are left keep their averages. -/
lemma longTermProblems_removeProblems (removed : store.removeRows .problems gone = .ok after)
    {token : String} {releases : ReleaseSelection} {components : Option (List Int)}
    {today : Date} {rows : List RankedProblem}
    (succeeds : store.longTermProblems token releases components today = .ok rows) :
    after.longTermProblems token releases components today
      = .ok (rows.filter fun row => !gone row.problem.id) := by
  obtain ⟨last, previous, -⟩ := bind_eq_ok_iff.1 succeeds
  rw [inRange_eq_ok_iff] at previous
  obtain ⟨found, ranked, rfl⟩ := (longTermProblems_eq_ok_iff previous).1 succeeds
  exact (longTermProblems_eq_ok_iff previous).2
    ⟨_, rank_removeProblems removed ranked, rowwise_prioritize last (!gone ·.id) found⟩

/-- Totals by operating system and component stay as they are, whether they can be read or not. -/
lemma totals_removeProblems (removed : store.removeRows .problems gone = .ok after)
    (opsys version : Option String) (granularity : Granularity) :
    after.historySum opsys version granularity = store.historySum opsys version granularity ∧
      after.componentCounts opsys version granularity
        = store.componentCounts opsys version granularity := by
  cases removed
  refine ⟨rfl, ?_⟩
  unfold componentCounts
  cases store.reports with
  | none => rfl
  | some reports =>
    simp only [Option.map_some, present, bind, Except.bind, Register.find?_modify, Option.map_map,
      Function.comp_def, component_detach]
    rfl

/-- No link of a removed problem is left, and its reports are left without a problem. -/
lemma rows_removeProblems (removed : store.removeRows .problems gone = .ok after) :
    (∀ link ∈ entriesOf after.componentLinks, gone link.problem = false) ∧
      (∀ link ∈ entriesOf after.releaseLinks, gone link.problem = false) ∧
      ∀ report ∈ rowsOf store.reports, report.problem.any gone = true →
        { report with problem := none } ∈ rowsOf after.reports := by
  cases removed
  refine ⟨fun link member => ?_, fun link member => ?_, fun report member belonged => ?_⟩
  · simpa using (mem_of_mem_filter_entries member).2
  · simpa using (mem_of_mem_filter_entries member).2
  · cases found : store.reports with
    | none =>
      rw [found] at member
      cases member
    | some reports =>
      rw [found] at member
      refine List.mem_map.2 ⟨report, member, ?_⟩
      unfold Report.detach
      rw [if_pos belonged]

/-! ### Reports that are removed -/

/-- To remove reports leaves problems and their links to components alone. -/
lemma frame_removeReports (removed : store.removeRows .reports gone = .ok after) :
    rowsOf after.problems = rowsOf store.problems ∧
      entriesOf after.componentLinks = entriesOf store.componentLinks := by
  cases removed
  exact ⟨rfl, rfl⟩

/-- The buckets of the removed reports are gone. -/
lemma buckets_removeReports (removed : store.removeRows .reports gone = .ok after)
    (granularity : Granularity) :
    after.buckets granularity
      = (store.buckets granularity).filter fun bucket => !gone bucket.report := by
  cases removed
  unfold buckets
  rw [History.get_map]
  cases store.history.get granularity with
  | none => rfl
  | some table => rfl

/-- What counts for a problem is what counted for it before, less the buckets of the removed
reports. -/
lemma countedFor_removeReports (removed : store.removeRows .reports gone = .ok after)
    (problem : Problem) :
    after.countedFor query problem
      = (store.countedFor query problem).filter fun bucket => !gone bucket.report := by
  unfold countedFor
  rw [buckets_removeReports removed, List.filter_filter, List.filter_filter]
  refine List.filter_congr fun bucket _ => ?_
  cases removed
  rw [Bool.and_comm]
  cases left : gone bucket.report with
  | true => rfl
  | false =>
    rw [Bool.not_false, Bool.true_and, Bool.true_and]
    unfold countsFor
    congr 1
    cases store.reports with
    | none => rfl
    | some reports =>
      change (reports.rows.filter _).any _ = reports.rows.any _
      rw [List.any_filter]
      congr 1
      funext report
      by_cases own : report.id = bucket.report
      · simp [own, left]
      · simp [own]

/-- A ranking that has succeeded still does when reports are removed, provided that it admits the
problems that lose a bucket. -/
lemma exists_rank_removeReports (removed : store.removeRows .reports gone = .ok after)
    (positive : ∀ bucket ∈ store.buckets query.granularity, bucket.count.isPositive = true)
    (admitted : ∀ problem ∈ rowsOf store.problems,
      (∃ bucket ∈ store.countedFor query problem, gone bucket.report = true) →
        query.admits (entriesOf store.componentLinks) problem = true)
    {rows : List RankedProblem} (ranked : store.rank query = .ok rows) :
    ∃ shown, after.rank query = .ok shown := by
  refine exists_rank_of_left (has_removeRows removed) (fun problem member => ?_) ranked
  obtain ⟨problems, links⟩ := frame_removeReports removed
  rw [problems] at member
  refine ⟨member, ?_⟩
  -- a problem either loses nothing, or its total was exact and what is left of it still is
  by_cases loses : ∃ bucket ∈ store.countedFor query problem, gone bucket.report = true
  · obtain ⟨n, total⟩ := total_of_admitted ranked member (admitted problem member loses)
    rw [countedFor_removeReports removed]
    refine .inr (Total.ofTallies_filter (fun bucket counted => ?_) total _)
    exact positive bucket (List.mem_filter.1 counted).1
  · have same : after.countedFor query problem = store.countedFor query problem := by
      rw [countedFor_removeReports removed]
      refine List.filter_eq_self.2 fun bucket counted => ?_
      rw [Bool.not_eq_true', ← Bool.not_eq_true]
      exact fun lost => loses ⟨bucket, counted, lost⟩
    exact .inl ⟨same, lists_congr same (by rw [links])⟩

/-- The buckets of a report that a query counts for a problem, if the report belongs to it. -/
def shareOf (store : Store) (query : RankQuery) (report : Report) (problem : Problem) :
    List Bucket :=
  (store.buckets query.granularity).filter fun bucket =>
    bucket.report = report.id && query.counts ⟨bucket, problem⟩

/-- The buckets of a report count for its own problem only. -/
lemma problem_of_counted {report : Report} (present : report ∈ rowsOf store.reports)
    {bucket : Bucket} (counted : bucket ∈ store.countedFor query problem)
    (own : bucket.report = report.id) : report.problem = some problem.id := by
  obtain ⟨⟨owner, among, same, belongs⟩, -⟩ := countsFor_iff.1 (List.mem_filter.1 counted).2
  cases found : store.reports with
  | none =>
    rw [found] at present
    cases present
  | some reports =>
    rw [found] at present among
    rw [Register.eq_of_id_eq present among (same.trans own).symm]
    exact belongs

/-- And all of those that the query counts do. -/
lemma filter_countedFor {report : Report} (present : report ∈ rowsOf store.reports)
    (belongs : report.problem = some problem.id) :
    ((store.countedFor query problem).filter fun bucket => bucket.report = report.id)
      = store.shareOf query report problem := by
  unfold countedFor shareOf
  rw [List.filter_filter]
  refine List.filter_congr fun bucket _ => ?_
  by_cases own : bucket.report = report.id
  · have reached : ((rowsOf store.reports).any fun row =>
        row.id = bucket.report && row.problem = some problem.id) = true :=
      List.any_eq_true.2 ⟨report, present, by simp [own, belongs]⟩
    unfold countsFor
    rw [reached, Bool.true_and]
  · simp [own]

/-- As counts are positive, a problem has a row exactly when its count is. -/
lemma Sound.exists_row_iff_pos (sound : store.Sound) {rows : List RankedProblem}
    (ranked : store.rank query = .ok rows) :
    (∃ row ∈ rows, row.problem = problem) ↔ 0 < countOf rows problem := by
  constructor
  · intro shown
    obtain ⟨present, listed⟩ := (exists_row_iff ranked).1 shown
    obtain ⟨⟨bucket, counted⟩, admitted⟩ := lists_iff_exists.1 listed
    have exact := (Total.ofTallies_eq_exact_iff.1 ((rank_eq_of_ok ranked).2 _ present listed)).1
    rw [countOf_rank ranked, if_pos ⟨present, admitted⟩]
    exact sound.exactSum_pos (fun bucket inside => (List.mem_filter.1 inside).1)
      (fun bucket inside => exact _ (List.mem_map_of_mem inside)) (List.ne_nil_of_mem counted)
  · intro positive
    unfold countOf at positive
    cases found : rows.find? fun row => row.problem = problem with
    | none =>
      rw [found] at positive
      cases positive
    | some row =>
      exact ⟨row, List.mem_of_find?_eq_some found, by simpa using List.find?_some found⟩

/-- While the total of its problem can be read, the buckets of a report have exact counts. -/
lemma exact_shareOf {report : Report} (present : report ∈ rowsOf store.reports)
    (belongs : report.problem = some problem.id) {n : Int}
    (total : Total.ofTallies ((store.countedFor query problem).map Bucket.count) = .exact n) :
    ∃ counts : List Int,
      (store.shareOf query report problem).map Bucket.count = counts.map Tally.exact ∧
        exactSum ((store.shareOf query report problem).map Bucket.count) = counts.sum := by
  have exact := (Total.ofTallies_eq_exact_iff.1 total).1
  refine ⟨_, map_exactPart_of_exact fun tally among => ?_, exactSum_eq_sum _⟩
  rw [← filter_countedFor present belongs] at among
  obtain ⟨bucket, inside, rfl⟩ := List.mem_map.1 among
  exact exact _ (List.mem_map_of_mem (List.mem_filter.1 inside).1)

/-- The count of a problem falls by the buckets that it loses. -/
lemma countOf_removeReports (removed : store.removeRows .reports gone = .ok after)
    (member : problem ∈ rowsOf store.problems)
    (admitted : query.admits (entriesOf store.componentLinks) problem = true)
    {rows shown : List RankedProblem} (ranked : store.rank query = .ok rows)
    (still : after.rank query = .ok shown) :
    countOf shown problem = countOf rows problem
      - exactSum (((store.countedFor query problem).filter fun bucket =>
          gone bucket.report).map Bucket.count) := by
  obtain ⟨problems, links⟩ := frame_removeReports removed
  have split := exactSum_filter_add (fun bucket : Bucket => gone bucket.report)
    (store.countedFor query problem)
  rw [countOf_rank still, countOf_rank ranked, problems, links, if_pos ⟨member, admitted⟩,
    if_pos ⟨member, admitted⟩, countedFor_removeReports removed, ← split]
  omega

/-- Once a report is gone, the other problems keep their rows, and its own problem keeps what is
left of its count; it keeps its row unless that is nothing. -/
lemma Sound.rank_removeReport (sound : store.Sound) {report : Report}
    (present : report ∈ rowsOf store.reports) (member : problem ∈ rowsOf store.problems)
    (belongs : report.problem = some problem.id)
    (removed : store.removeRows .reports (· = report.id) = .ok after)
    (admitted : query.admits (entriesOf store.componentLinks) problem = true)
    {rows : List RankedProblem} (ranked : store.rank query = .ok rows) :
    ∃ shown, ∃ counts : List Int, after.rank query = .ok shown ∧
      (shown.filter fun row => row.problem.id ≠ problem.id)
        = (rows.filter fun row => row.problem.id ≠ problem.id) ∧
      (store.shareOf query report problem).map Bucket.count = counts.map Tally.exact ∧
      countOf shown problem = countOf rows problem - counts.sum ∧
      ((∃ row ∈ shown, row.problem = problem) ↔ counts.sum < countOf rows problem) := by
  obtain ⟨problems, links⟩ := frame_removeReports removed
  -- only the problem of the report loses buckets
  have loses {other : Problem} {bucket : Bucket} (counted : bucket ∈ store.countedFor query other)
      (own : bucket.report = report.id) : other.id = problem.id :=
    Option.some.inj ((problem_of_counted present counted own).symm.trans belongs)
  obtain ⟨shown, still⟩ : ∃ shown, after.rank query = .ok shown := by
    refine exists_rank_removeReports removed (sound.positive _) ?_ ranked
    rintro other - ⟨bucket, counted, own⟩
    have same := loses counted (of_decide_eq_true own)
    unfold RankQuery.admits at admitted ⊢
    rw [same]
    exact admitted
  have same (other : Problem) (differs : decide (other.id ≠ problem.id) = true) :
      after.countedFor query other = store.countedFor query other := by
    rw [countedFor_removeReports removed]
    refine List.filter_eq_self.2 fun bucket counted => ?_
    rw [Bool.not_eq_true', decide_eq_false_iff_not]
    exact fun own => of_decide_eq_true differs (loses counted own)
  have others : (shown.filter fun row => row.problem.id ≠ problem.id)
      = rows.filter fun row => row.problem.id ≠ problem.id :=
    filter_rank_congr (fun other => other.id ≠ problem.id) (by rw [problems]) same
      (fun other differs => lists_congr (same other differs) (by rw [links])) ranked still
  obtain ⟨n, total⟩ := total_of_admitted ranked member admitted
  obtain ⟨counts, share, sum⟩ := exact_shareOf present belongs total
  have count : countOf shown problem = countOf rows problem - counts.sum := by
    rw [countOf_removeReports removed member admitted ranked still, ← sum,
      ← filter_countedFor present belongs]
  refine ⟨shown, counts, still, others, share, count, ?_⟩
  rw [(sound.removeRows removed).exists_row_iff_pos still, count]
  omega

/-! ### The removal of one row -/

/-- A sound store lets go of a row that nothing holds back. -/
lemma Sound.step_delete (sound : store.Sound) {table : TableName} {id : Int}
    (numbered : hasIds table = true) (present : id ∈ store.ids table)
    (removed : store.removeRows table (· = id) = .ok after) :
    store.step (.delete table id) = (.ok (.removed 1), after) := by
  have cascades (children : List TableName) : children.forM store.requireParents = .ok () := by
    induction children with
    | nil => rfl
    | cons child rest ih => exact bind_eq_ok_iff.2 ⟨(), sound.requireParents_eq child, ih⟩
  have yields : (delete table id).Yields store 1 after := delete_yields_iff.2
    ⟨sound.tables table, numbered, fun parent _ => sound.tables parent, cascades _,
      .inl ⟨present, rfl, removed⟩⟩
  have reply : (Reply.removed <$> delete table id).Yields store (.removed 1) after :=
    StoreM.map_yields_iff.2 ⟨1, yields, rfl⟩
  exact Prod.ext reply.1 reply.2

/-- What one store shows without a problem that another one shows with it: every ranking that the
other one can compute, under a treatment of its rows that goes row by row, is without the row of the
problem, totals are the same, and nothing is linked to the problem or reported for it. -/
structure ShowsWithout (after store : Store) (problem : Problem) : Prop where
  ranked : ∀ post, Rowwise post → ∀ query rows, post <$> store.rank query = .ok rows →
    post <$> after.rank query = .ok (rows.filter fun row => row.problem.id ≠ problem.id)
  hot : ∀ token releases components cutoff today rows,
    store.hotProblems token releases components cutoff today = .ok rows →
    after.hotProblems token releases components cutoff today
      = .ok (rows.filter fun row => row.problem.id ≠ problem.id)
  longTerm : ∀ token releases components today rows,
    store.longTermProblems token releases components today = .ok rows →
    after.longTermProblems token releases components today
      = .ok (rows.filter fun row => row.problem.id ≠ problem.id)
  historySum : ∀ opsys version granularity,
    after.historySum opsys version granularity = store.historySum opsys version granularity
  componentCounts : ∀ opsys version granularity,
    after.componentCounts opsys version granularity
      = store.componentCounts opsys version granularity
  componentLinks : ∀ link ∈ entriesOf after.componentLinks, link.problem ≠ problem.id
  releaseLinks : ∀ link ∈ entriesOf after.releaseLinks, link.problem ≠ problem.id
  reports : ∀ report ∈ rowsOf store.reports, report.problem = some problem.id →
    { report with problem := none } ∈ rowsOf after.reports

/-- Once a problem is removed, the store shows what it showed, without the problem. -/
lemma showsWithout_removeProblem
    (removed : store.removeRows .problems (· = problem.id) = .ok after) :
    after.ShowsWithout store problem := by
  have others (rows : List RankedProblem) : (rows.filter fun row => row.problem.id ≠ problem.id)
      = rows.filter fun row => !decide (row.problem.id = problem.id) := by
    simp only [ne_eq, decide_not]
  obtain ⟨componentLinks, releaseLinks, reports⟩ := rows_removeProblems removed
  constructor
  case ranked =>
    intro post rowwise query rows succeeds
    obtain ⟨found, ranked, rfl⟩ := map_eq_ok_iff.1 succeeds
    rw [others, rank_removeProblems removed ranked]
    exact congrArg Except.ok (rowwise (fun other => !decide (other.id = problem.id)) found)
  case hot =>
    intro token releases components cutoff today rows succeeds
    rw [others]
    exact hotProblems_removeProblems removed succeeds
  case longTerm =>
    intro token releases components today rows succeeds
    rw [others]
    exact longTermProblems_removeProblems removed succeeds
  case historySum =>
    intro opsys version granularity
    exact (totals_removeProblems removed opsys version granularity).1
  case componentCounts =>
    intro opsys version granularity
    exact (totals_removeProblems removed opsys version granularity).2
  case componentLinks =>
    exact fun link member => of_decide_eq_false (componentLinks link member)
  case releaseLinks =>
    exact fun link member => of_decide_eq_false (releaseLinks link member)
  case reports =>
    intro report member belongs
    refine reports report member ?_
    rw [belongs]
    exact decide_eq_true rfl

end Store

end CrashTriage
