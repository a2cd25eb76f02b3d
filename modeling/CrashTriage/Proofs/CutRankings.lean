import CrashTriage.Proofs.ComponentFilter
import CrashTriage.Proofs.HotWindows
import CrashTriage.Proofs.LongTermMeaning
import CrashTriage.Proofs.UniformFailures

/-!
# The limit and the label of a ranking

A request for a ranking is answered with the first rows of the ranking that its fields ask for. The
limit has no part in that ranking: requests that differ in nothing else are answered with two
beginnings of one list. Neither has any bucket of another granularity than the one that the answer
is labelled with.
-/

namespace CrashTriage

/-! ### The ranking behind an answer -/

/-- A request for one of the two rankings that wants a body. -/
structure Request.AsksForRanking (request : Request) : Prop where
  method : request.method = "GET"
  route : Route.ofPath? request.pathAndQuery.1 = some .hot ∨
    Route.ofPath? request.pathAndQuery.1 = some .longTerm

namespace Service

/-- The ranking that a service computes for a request, with the granularity of its buckets and the
number of rows asked for, if there is one. The selections, the cutoff and the token are those of the
request; without a cutoff the settings give one, without a token hot problems are ranked by days and
long-term ones by months. -/
inductive Ranks (service : Service) (request : Request) :
    Granularity → Option Nat → List RankedProblem → Prop where
  | hot {fields : HotFields} {releases : ReleaseSelection} {components : Option (List Int)}
      {standard : Date} {rows : List RankedProblem}
      (route : Route.ofPath? request.pathAndQuery.1 = some .hot)
      (read : HotFields.ofForm? (formFields request.pathAndQuery.2) = some fields)
      (selects : readSelections fields.releases fields.components = .ok (releases, components))
      (window : service.today.addDays? (-service.ranking.hotWindowDays) = some standard)
      (ranked : service.session.store.hotProblems (fields.history.getD "daily") releases
        components (some (fields.since.getD standard)) service.today = .ok rows) :
      Ranks service request (.ofToken (fields.history.getD "daily")) fields.limit rows
  | longTerm {fields : LongTermFields} {releases : ReleaseSelection}
      {components : Option (List Int)} {rows : List RankedProblem}
      (route : Route.ofPath? request.pathAndQuery.1 = some .longTerm)
      (read : LongTermFields.ofForm? (formFields request.pathAndQuery.2) = some fields)
      (selects : readSelections fields.releases fields.components = .ok (releases, components))
      (ranked : service.session.store.longTermProblems (fields.history.getD "monthly")
        releases components service.today = .ok rows) :
      Ranks service request (.ofToken (fields.history.getD "monthly")) fields.limit rows

end Service

/-- An inquiry is made of two selections when they can be read. -/
lemma ofSelections_eq_ok_iff {releases components : Option String}
    {make : ReleaseSelection → Option (List Int) → Inquiry} {inquiry : Inquiry} :
    Inquiry.ofSelections releases components make = .ok inquiry ↔
      ∃ selected listed, readSelections releases components = .ok (selected, listed) ∧
        make selected listed = inquiry := by
  unfold Inquiry.ofSelections
  cases readSelections releases components with
  | error error =>
    constructor
    · nofun
    · rintro ⟨selected, listed, read, -⟩
      cases read
  | ok selections =>
    constructor
    · intro made
      exact ⟨_, _, rfl, Except.ok.inj made⟩
    · rintro ⟨selected, listed, read, made⟩
      cases read
      exact congrArg Except.ok made

namespace Request

variable {request : Request} {inquiry : Inquiry}

/-- A GET request is read on the route that its path leads to. -/
lemma read_of_route (isGet : request.method = "GET") {route : Route}
    (leads : Route.ofPath? request.pathAndQuery.1 = some route) :
    request.read = route.read request.pathAndQuery.2 := by
  unfold read
  rw [leads]
  exact if_pos (.inl isGet)

/-- What a request for hot problems asks for. -/
lemma read_hot_iff (isGet : request.method = "GET")
    (leads : Route.ofPath? request.pathAndQuery.1 = some .hot) :
    request.read = .ok inquiry ↔
      ∃ fields selected listed,
        HotFields.ofForm? (formFields request.pathAndQuery.2) = some fields ∧
        readSelections fields.releases fields.components = .ok (selected, listed) ∧
        .hot (fields.history.getD "daily") selected listed fields.since fields.limit
          = inquiry := by
  rw [read_of_route isGet leads]
  unfold Route.read
  dsimp only
  cases HotFields.ofForm? (formFields request.pathAndQuery.2) with
  | none => simp
  | some fields => simp [ofSelections_eq_ok_iff]

/-- What a request for long-term problems asks for. -/
lemma read_longTerm_iff (isGet : request.method = "GET")
    (leads : Route.ofPath? request.pathAndQuery.1 = some .longTerm) :
    request.read = .ok inquiry ↔
      ∃ fields selected listed,
        LongTermFields.ofForm? (formFields request.pathAndQuery.2) = some fields ∧
        readSelections fields.releases fields.components = .ok (selected, listed) ∧
        .longTerm (fields.history.getD "monthly") selected listed fields.limit = inquiry := by
  rw [read_of_route isGet leads]
  unfold Route.read
  dsimp only
  cases LongTermFields.ofForm? (formFields request.pathAndQuery.2) with
  | none => simp
  | some fields => simp [ofSelections_eq_ok_iff]

/-- A request for a ranking is refused as a bad one or not at all. -/
lemma AsksForRanking.status_of_read (asks : request.AsksForRanking) {refused : Response}
    (read : request.read = .error refused) : refused.status = 400 := by
  rcases asks.route with hot | longTerm
  · exact Route.status_of_read ((read_of_route asks.method hot).symm.trans read)
  · exact Route.status_of_read ((read_of_route asks.method longTerm).symm.trans read)

end Request

namespace Service

variable {service : Service} {request : Request} {inquiry : Inquiry} {response : Response}

/-- A GET request that makes an inquiry about the store is answered with what the store has. -/
lemma respond_eq_ok_iff (isGet : request.method = "GET") (read : request.read = .ok inquiry)
    (other : inquiry ≠ .health) :
    service.respond request = .ok response ∧ response.status = 200 ↔
      ∃ look, service.lookup inquiry = .ok look ∧ service.session.read look = .ok response ∧
        response.status = 200 := by
  rw [respond_of_inquiry read, Request.trim_of_get isGet, id_map]
  unfold reply
  rw [map_eq_ok_iff]
  constructor
  · rintro ⟨⟨look, found, settled⟩, status⟩
    cases outcome : service.session.read look with
    | error failure =>
      rw [settle_of_failure other outcome] at settled
      subst settled
      cases status
    | ok answer =>
      rw [settle_of_read outcome] at settled
      subst settled
      exact ⟨look, found, outcome, status⟩
  · rintro ⟨look, found, answered, status⟩
    exact ⟨⟨look, found, settle_of_read answered⟩, status⟩

/-- What the store has for an inquiry about the hot ranking is its first rows. -/
lemma lookup_hot_iff {token : String} {releases : ReleaseSelection}
    {components : Option (List Int)} {since : Option Date} {limit : Option Nat} :
    (∃ look, service.lookup (.hot token releases components since limit) = .ok look ∧
      service.session.read look = .ok response ∧ response.status = 200) ↔
    service.session.isOpen = true ∧ ∃ standard rows,
      service.today.addDays? (-service.ranking.hotWindowDays) = some standard ∧
      service.session.store.hotProblems token releases components
        (some (since.getD standard)) service.today = .ok rows ∧
      response
        = .ok (.ranking (.ofToken token) (rows.take (service.ranking.clampLimit limit))) := by
  unfold lookup cutoff
  simp only [bind_eq_ok_iff, inRange_eq_ok_iff, pure_eq_ok_iff, Session.read_eq_ok_iff]
  constructor
  · rintro ⟨look, ⟨cutoff, ⟨standard, window, rfl⟩, rfl⟩, ⟨isOpen, answered⟩, -⟩
    obtain ⟨rows, ranked, rfl⟩ := map_eq_ok_iff.1 answered
    exact ⟨isOpen, standard, rows, window, ranked, rfl⟩
  · rintro ⟨isOpen, standard, rows, window, ranked, rfl⟩
    exact ⟨_, ⟨_, ⟨standard, window, rfl⟩, rfl⟩, ⟨isOpen, map_eq_ok_iff.2 ⟨rows, ranked, rfl⟩⟩, rfl⟩

/-- What it has for one about the long-term ranking is, too. -/
lemma lookup_longTerm_iff {token : String} {releases : ReleaseSelection}
    {components : Option (List Int)} {limit : Option Nat} :
    (∃ look, service.lookup (.longTerm token releases components limit) = .ok look ∧
      service.session.read look = .ok response ∧ response.status = 200) ↔
    service.session.isOpen = true ∧ ∃ rows,
      service.session.store.longTermProblems token releases components service.today
        = .ok rows ∧
      response
        = .ok (.ranking (.ofToken token) (rows.take (service.ranking.clampLimit limit))) := by
  unfold lookup
  simp only [Session.read_eq_ok_iff]
  constructor
  · rintro ⟨look, found, ⟨isOpen, answered⟩, -⟩
    cases found
    obtain ⟨rows, ranked, rfl⟩ := map_eq_ok_iff.1 answered
    exact ⟨isOpen, rows, ranked, rfl⟩
  · rintro ⟨isOpen, rows, ranked, rfl⟩
    exact ⟨_, rfl, ⟨isOpen, map_eq_ok_iff.2 ⟨rows, ranked, rfl⟩⟩, rfl⟩

/-- A request for a ranking succeeds exactly when the ranking does, and its answer is the first
rows. -/
lemma respond_eq_ranking_iff (asks : request.AsksForRanking) :
    service.respond request = .ok response ∧ response.status = 200 ↔
      service.session.isOpen = true ∧ ∃ granularity limit rows,
        service.Ranks request granularity limit rows ∧
        response = .ok (.ranking granularity (rows.take (service.ranking.clampLimit limit))) := by
  constructor
  · rintro ⟨answered, status⟩
    cases read : request.read with
    | error refused =>
      rw [(status_of_respond answered).2 ⟨refused, read, asks.status_of_read read⟩] at status
      cases status
    | ok inquiry =>
      rcases asks.route with leads | leads
      · obtain ⟨fields, selected, listed, form, selects, rfl⟩ :=
          (Request.read_hot_iff asks.method leads).1 read
        obtain ⟨isOpen, standard, rows, window, ranked, shown⟩ :=
          lookup_hot_iff.1 ((respond_eq_ok_iff asks.method read nofun).1 ⟨answered, status⟩)
        exact ⟨isOpen, _, _, rows, .hot leads form selects window ranked, shown⟩
      · obtain ⟨fields, selected, listed, form, selects, rfl⟩ :=
          (Request.read_longTerm_iff asks.method leads).1 read
        obtain ⟨isOpen, rows, ranked, shown⟩ :=
          lookup_longTerm_iff.1 ((respond_eq_ok_iff asks.method read nofun).1 ⟨answered, status⟩)
        exact ⟨isOpen, _, _, rows, .longTerm leads form selects ranked, shown⟩
  · rintro ⟨isOpen, granularity, limit, rows, ranks, shown⟩
    rcases ranks with ⟨leads, form, selects, window, ranked⟩ | ⟨leads, form, selects, ranked⟩
    · have read := (Request.read_hot_iff asks.method leads).2 ⟨_, _, _, form, selects, rfl⟩
      exact (respond_eq_ok_iff asks.method read nofun).2
        (lookup_hot_iff.2 ⟨isOpen, _, rows, window, ranked, shown⟩)
    · have read := (Request.read_longTerm_iff asks.method leads).2 ⟨_, _, _, form, selects, rfl⟩
      exact (respond_eq_ok_iff asks.method read nofun).2
        (lookup_longTerm_iff.2 ⟨isOpen, rows, ranked, shown⟩)

end Service

/-! ### Requests that differ in their limit -/

/-- Two requests with the same path, and with the same fields but for the limit. -/
structure Request.AgreesButForLimit (request request' : Request) : Prop where
  route : Route.ofPath? request.pathAndQuery.1 = Route.ofPath? request'.pathAndQuery.1
  fields : (formFields request.pathAndQuery.2).filter (·.name ≠ "limit")
    = (formFields request'.pathAndQuery.2).filter (·.name ≠ "limit")

section
variable {form form' : List FormField}

/-- The other fields of a query are read without the limit. -/
lemma formValue?_congr (same : form.filter (·.name ≠ "limit") = form'.filter (·.name ≠ "limit"))
    {name : String} (other : name ≠ "limit") : formValue? form name = formValue? form' name := by
  have without (fields : List FormField) : fields.filter (·.name = name)
      = (fields.filter (·.name ≠ "limit")).filter (·.name = name) := by
    rw [List.filter_filter]
    refine List.filter_congr fun field _ => ?_
    by_cases named : field.name = name
    · simp [named, other]
    · simp [named]
  unfold formValue?
  rw [without form, without form', same]

/-- So are the fields of a request for hot problems. -/
lemma HotFields.eq_of_ofForm? {fields fields' : HotFields}
    (same : form.filter (·.name ≠ "limit") = form'.filter (·.name ≠ "limit"))
    (read : HotFields.ofForm? form = some fields) (read' : HotFields.ofForm? form' = some fields') :
    fields' = { fields with limit := fields'.limit } := by
  unfold HotFields.ofForm? at read read'
  simp only [Option.bind_eq_bind, Option.bind_eq_some_iff, Option.pure_def, Option.some.injEq]
    at read read'
  obtain ⟨_, releases, _, components, _, text, _, since, _, history, _, -, _, -, rfl⟩ := read
  obtain ⟨_, releases', _, components', _, text', _, since', _, history', _, -, _, -, rfl⟩ := read'
  rw [formValue?_congr same (by decide)] at releases components text history
  cases releases.symm.trans releases'
  cases components.symm.trans components'
  cases text.symm.trans text'
  cases since.symm.trans since'
  cases history.symm.trans history'
  rfl

/-- And those of a request for long-term problems. -/
lemma LongTermFields.eq_of_ofForm? {fields fields' : LongTermFields}
    (same : form.filter (·.name ≠ "limit") = form'.filter (·.name ≠ "limit"))
    (read : LongTermFields.ofForm? form = some fields)
    (read' : LongTermFields.ofForm? form' = some fields') :
    fields' = { fields with limit := fields'.limit } := by
  unfold LongTermFields.ofForm? at read read'
  simp only [Option.bind_eq_bind, Option.bind_eq_some_iff, Option.pure_def, Option.some.injEq]
    at read read'
  obtain ⟨_, releases, _, components, _, history, _, -, _, -, rfl⟩ := read
  obtain ⟨_, releases', _, components', _, history', _, -, _, -, rfl⟩ := read'
  rw [formValue?_congr same (by decide)] at releases components history
  cases releases.symm.trans releases'
  cases components.symm.trans components'
  cases history.symm.trans history'
  rfl

end

namespace Service

variable {service : Service} {request request' : Request} {granularity granularity' : Granularity}
  {limit limit' : Option Nat} {rows rows' : List RankedProblem}

/-- The limit has no part in the ranking behind an answer. -/
lemma Ranks.unique (ranks : service.Ranks request granularity limit rows)
    (ranks' : service.Ranks request' granularity' limit' rows')
    (agrees : request.AgreesButForLimit request') : granularity = granularity' ∧ rows = rows' := by
  cases ranks with
  | hot leads read selects window ranked =>
    cases ranks' with
    | hot leads' read' selects' window' ranked' =>
      have fields := HotFields.eq_of_ofForm? agrees.fields read read'
      rw [fields] at selects' ranked' ⊢
      cases selects.symm.trans selects'
      cases window.symm.trans window'
      cases ranked.symm.trans ranked'
      exact ⟨rfl, rfl⟩
    | longTerm leads' =>
      cases leads.symm.trans (agrees.route.trans leads')
  | longTerm leads read selects ranked =>
    cases ranks' with
    | hot leads' =>
      cases leads.symm.trans (agrees.route.trans leads')
    | longTerm leads' read' selects' ranked' =>
      have fields := LongTermFields.eq_of_ofForm? agrees.fields read read'
      rw [fields] at selects' ranked' ⊢
      cases selects.symm.trans selects'
      cases ranked.symm.trans ranked'
      exact ⟨rfl, rfl⟩

end Service

/-! ### The buckets that the label names -/

/-- A prioritized row is a row with another rank. -/
lemma exists_of_mem_prioritize {last : Date} {rows : List RankedProblem} {row : RankedProblem}
    (member : row ∈ prioritize last rows) :
    ∃ old ∈ rows, old.problem = row.problem ∧ old.count = row.count := by
  rw [(prioritize_perm_averages last rows).mem_iff] at member
  obtain ⟨old, kept, rfl⟩ := List.mem_map.1 member
  exact ⟨old, (List.mem_filter.1 kept).1, rfl, rfl⟩

namespace Store

variable {store : Store} {history : History}

/-- A ranking reads no buckets but those of its granularity. -/
lemma rank_withHistory {query : RankQuery}
    (same : history.get query.granularity = store.history.get query.granularity) :
    { store with history := history }.rank query = store.rank query := by
  unfold rank
  simp only [same]

/-- A row of a ranking shows the exact sum of some of the buckets of its granularity. -/
lemma count_of_mem_rank {query : RankQuery} {rows : List RankedProblem}
    (ranked : store.rank query = .ok rows) {row : RankedProblem} (member : row ∈ rows) :
    ∃ counted : List Bucket, ∃ counts : List Int,
      counted.Sublist (store.buckets query.granularity) ∧
      counted.map Bucket.count = counts.map Tally.exact ∧ row.count = counts.sum := by
  obtain ⟨numbers, exact, shown⟩ := exists_counts_of_mem_rank ranked member
  refine ⟨_, numbers, List.filter_sublist, exact, ?_⟩
  rw [shown]
  rfl

end Store

namespace Service

variable {service : Service} {request : Request} {granularity : Granularity}
  {limit : Option Nat} {rows : List RankedProblem}

/-- A ranking stays the same when buckets of other granularities change. -/
lemma Ranks.withHistory (ranks : service.Ranks request granularity limit rows) {history : History}
    (same : history.get granularity = service.session.store.history.get granularity) :
    { service with session.store.history := history }.Ranks request granularity limit rows := by
  rcases ranks with ⟨leads, read, selects, window, ranked⟩ | ⟨leads, read, selects, ranked⟩
  · refine .hot leads read selects window ?_
    obtain ⟨standard, inside, found⟩ := Store.hotProblems_eq_ok_iff.1 ranked
    exact Store.hotProblems_eq_ok_iff.2
      ⟨standard, inside, (Store.rank_withHistory same).trans found⟩
  · refine .longTerm leads read selects ?_
    obtain ⟨last, previous, -⟩ := bind_eq_ok_iff.1 ranked
    rw [inRange_eq_ok_iff] at previous
    obtain ⟨found, counted, shown⟩ := (Store.longTermProblems_eq_ok_iff previous).1 ranked
    exact (Store.longTermProblems_eq_ok_iff previous).2
      ⟨found, (Store.rank_withHistory same).trans counted, shown⟩

/-- Its counts are sums of buckets of its own granularity. -/
lemma Ranks.count (ranks : service.Ranks request granularity limit rows) {row : RankedProblem}
    (member : row ∈ rows) :
    ∃ counted : List Bucket, ∃ counts : List Int,
      counted.Sublist (service.session.store.buckets granularity) ∧
      counted.map Bucket.count = counts.map Tally.exact ∧ row.count = counts.sum := by
  rcases ranks with ⟨leads, read, selects, window, ranked⟩ | ⟨leads, read, selects, ranked⟩
  · obtain ⟨standard, -, found⟩ := Store.hotProblems_eq_ok_iff.1 ranked
    exact Store.count_of_mem_rank found member
  · obtain ⟨last, previous, -⟩ := bind_eq_ok_iff.1 ranked
    rw [inRange_eq_ok_iff] at previous
    obtain ⟨found, counted, rfl⟩ := (Store.longTermProblems_eq_ok_iff previous).1 ranked
    obtain ⟨old, among, -, same⟩ := exists_of_mem_prioritize member
    rw [← same]
    exact Store.count_of_mem_rank counted among

/-- The limit of a request only cuts, and the label of an answer names the buckets behind it. A
request for hot or long-term problems succeeds exactly when the ranking that its fields ask for
does, and is answered with as many of its first rows as the limit allows, or the standard limit when
there is none, but never more than the greatest limit. Two requests that differ in their limit only
are answered with the same label, and the shorter answer is where the longer one begins. A ranking
is made of the buckets of its label: it is the same whatever the buckets of other granularities are,
and every count is the sum of some of these buckets. -/
theorem limit_only_cuts (service : Service) :
    (∀ request response, request.AsksForRanking →
      (service.respond request = .ok response ∧ response.status = 200 ↔
        service.session.isOpen = true ∧ ∃ granularity limit rows,
          service.Ranks request granularity limit rows ∧
          response = .ok (.ranking granularity (rows.take
            (min (limit.getD service.ranking.defaultLimit) service.ranking.maxLimit))))) ∧
    (∀ request request' granularity granularity' problems problems',
      request.AsksForRanking → request'.AsksForRanking → request.AgreesButForLimit request' →
      service.respond request = .ok (.ok (.ranking granularity problems)) →
      service.respond request' = .ok (.ok (.ranking granularity' problems')) →
      granularity = granularity' ∧ problems.length ≤ service.ranking.maxLimit ∧
        (problems.length ≤ problems'.length → problems <+: problems')) ∧
    ∀ request granularity limit rows, service.Ranks request granularity limit rows →
      (∀ history : History,
        history.get granularity = service.session.store.history.get granularity →
        { service with session.store.history := history }.Ranks request granularity limit rows) ∧
      ∀ row ∈ rows, ∃ counted : List Bucket, ∃ counts : List Int,
        counted.Sublist (service.session.store.buckets granularity) ∧
        counted.map Bucket.count = counts.map Tally.exact ∧ row.count = counts.sum := by
  refine ⟨fun request response asks => respond_eq_ranking_iff asks, ?_, ?_⟩
  · intro request request' granularity granularity' problems problems' asks asks' agrees answered
      answered'
    obtain ⟨-, _, limit, rows, ranks, shown⟩ := (respond_eq_ranking_iff asks).1 ⟨answered, rfl⟩
    obtain ⟨-, _, limit', rows', ranks', shown'⟩ :=
      (respond_eq_ranking_iff asks').1 ⟨answered', rfl⟩
    cases shown
    cases shown'
    obtain ⟨rfl, rfl⟩ := ranks.unique ranks' agrees
    refine ⟨rfl, ?_, List.prefix_of_prefix_length_le (List.take_prefix _ _) (List.take_prefix _ _)⟩
    rw [List.length_take]
    unfold RankingSettings.clampLimit
    omega
  · intro request granularity limit rows ranks
    exact ⟨fun history same => ranks.withHistory same, fun row member => ranks.count member⟩

/-- A service on a store with two problems, on the first day of 2025. -/
def withTwoProblems : Service where
  session := { store := Store.migrated.run Store.oneLinked }
  today := Store.newYearsDay

/-- A request for the hot ranking by weeks. -/
def requestByWeeks : Request := { target := "/v1/problems/hot?history=w" }

/-- The same request for one row. -/
def requestFirstByWeeks : Request := { target := "/v1/problems/hot?limit=1&history=w" }

lemma ranks_withTwoProblems {request : Request} {limit : Option Nat}
    (leads : Route.ofPath? request.pathAndQuery.1 = some .hot)
    (read : HotFields.ofForm? (formFields request.pathAndQuery.2)
      = some ⟨none, none, none, some "w", limit⟩) :
    withTwoProblems.Ranks request .weekly limit
      (sortByCount [.ofCount ⟨1, Store.newYearsEve, Store.newYearsEve⟩ 3,
        .ofCount ⟨2, Store.newYearsEve, Store.newYearsDay⟩ 5]) := by
  have token : Granularity.ofToken "w" = .weekly := by decide
  -- two weeks before, on the 18th of December
  have ranked : (Store.migrated.run Store.oneLinked).hotProblems "w" .all none
      (some ⟨739603, by decide, by decide⟩) Store.newYearsDay
      = .ok (sortByCount [.ofCount ⟨1, Store.newYearsEve, Store.newYearsEve⟩ 3,
          .ofCount ⟨2, Store.newYearsEve, Store.newYearsDay⟩ 5]) := rfl
  rw [← token]
  exact .hot leads read rfl rfl ranked

/-- Asked for one row, the service answers with the first of the two that it has. -/
theorem answers_withTwoProblems :
    ∃ problems problems',
      withTwoProblems.respond requestFirstByWeeks = .ok (.ok (.ranking .weekly problems)) ∧
      withTwoProblems.respond requestByWeeks = .ok (.ok (.ranking .weekly problems')) ∧
      problems.length = 1 ∧ problems'.length = 2 ∧ problems <+: problems' := by
  obtain ⟨answers, agree, -⟩ := limit_only_cuts withTwoProblems
  have leads : Route.ofPath? requestByWeeks.pathAndQuery.1 = some .hot := by decide +kernel
  have leadsFirst : Route.ofPath? requestFirstByWeeks.pathAndQuery.1 = some .hot := by
    decide +kernel
  have asks : requestByWeeks.AsksForRanking := ⟨rfl, .inl leads⟩
  have asksFirst : requestFirstByWeeks.AsksForRanking := ⟨rfl, .inl leadsFirst⟩
  have agrees : requestFirstByWeeks.AgreesButForLimit requestByWeeks :=
    ⟨leadsFirst.trans leads.symm, by decide +kernel⟩
  obtain ⟨answered, -⟩ := (answers requestByWeeks _ asks).2
    ⟨rfl, _, none, _, ranks_withTwoProblems leads (by decide +kernel), rfl⟩
  obtain ⟨answeredFirst, -⟩ := (answers requestFirstByWeeks _ asksFirst).2
    ⟨rfl, _, some 1, _, ranks_withTwoProblems leadsFirst (by decide +kernel), rfl⟩
  obtain ⟨-, -, shorter⟩ := agree _ _ _ _ _ _ asksFirst asks agrees answeredFirst answered
  have one : (List.take 1 (sortByCount [.ofCount ⟨1, Store.newYearsEve, Store.newYearsEve⟩ 3,
      .ofCount ⟨2, Store.newYearsEve, Store.newYearsDay⟩ 5])).length = 1 := by
    rw [List.length_take, (sortByCount_perm _).length_eq]
    rfl
  have two : (List.take 50 (sortByCount [.ofCount ⟨1, Store.newYearsEve, Store.newYearsEve⟩ 3,
      .ofCount ⟨2, Store.newYearsEve, Store.newYearsDay⟩ 5])).length = 2 := by
    rw [List.length_take, (sortByCount_perm _).length_eq]
    rfl
  refine ⟨_, _, answeredFirst, answered, one, two, shorter ?_⟩
  calc
    _ = 1 := one
    _ ≤ 2 := by decide
    _ = _ := two.symm

end Service

end CrashTriage
