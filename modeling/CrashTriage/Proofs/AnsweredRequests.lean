import CrashTriage.Proofs.Inquiries
import CrashTriage.Proofs.ObservedMonths
import CrashTriage.Proofs.Soundness

/-!
# Which requests are answered

Work on the store needs a date outside the calendar's range only when today is close to the first
day of the range, so never from 1970 on. The service itself computes one more date: the cutoff that
the settings give for the hot ranking. Settings are accepted however many days they put between that
cutoff and today, so the cutoff may lie outside the range, and then no request for the hot ranking
is answered, not even one that brings its own cutoff. All other requests are answered.
-/

namespace CrashTriage

/-! ### Computations that avoid a failure -/

/-- A computation that does not end in a certain failure. -/
def Avoids {ε α : Type} (failure : ε) (x : Except ε α) : Prop := x ≠ .error failure

namespace Avoids

variable {ε α β : Type} {failure : ε}

lemma ok (a : α) : Avoids failure (.ok a) := nofun

lemma error {other : ε} (differ : other ≠ failure) :
    Avoids failure (.error other : Except ε α) := by
  intro same
  exact differ (Except.error.inj same)

lemma bind {x : Except ε α} {f : α → Except ε β} (first : Avoids failure x)
    (rest : ∀ a, Avoids failure (f a)) : Avoids failure (x >>= f) := by
  cases x with
  | error other =>
    refine error fun same => first ?_
    rw [same]
  | ok a => exact rest a

lemma map {x : Except ε α} (f : α → β) (avoids : Avoids failure x) : Avoids failure (f <$> x) := by
  cases x with
  | error other =>
    refine error fun same => avoids ?_
    rw [same]
  | ok a => exact ok (f a)

lemma guarded {p : Prop} [Decidable p] {other : ε} {stop : PUnit → Except ε α}
    {rest : Except ε α} (differ : other ≠ failure) (avoids : Avoids failure rest) :
    Avoids failure (if p then (throw other >>= stop) else rest) := by
  split
  · exact error differ
  · exact avoids

lemma mapM {f : α → Except ε β} (each : ∀ a, Avoids failure (f a)) (items : List α) :
    Avoids failure (items.mapM f) := by
  induction items with
  | nil => exact ok []
  | cons item rest ih =>
    rw [List.mapM_cons]
    exact (each item).bind fun _ => ih.bind fun _ => ok _

lemma foldlM {f : β → α → Except ε β} (each : ∀ b a, Avoids failure (f b a)) (items : List α)
    (b : β) : Avoids failure (items.foldlM f b) := by
  induction items generalizing b with
  | nil => exact ok b
  | cons item rest ih =>
    rw [List.foldlM_cons]
    exact (each b item).bind fun after => ih after

lemma bindable (values : Nat) : Avoids .dateOutOfRange (CrashTriage.bindable values) := by
  unfold CrashTriage.bindable
  split
  · exact ok ()
  · exact error nofun

lemma nestable (depth : Nat) : Avoids .dateOutOfRange (CrashTriage.nestable depth) := by
  unfold CrashTriage.nestable
  split
  · exact ok ()
  · exact error nofun

lemma present {name : TableName} (table : Option α) :
    Avoids .dateOutOfRange (CrashTriage.present name table) := by
  cases table with
  | none => exact error nofun
  | some found => exact ok found

lemma inRange {date : Option Date} (inside : date.isSome = true) :
    Avoids .dateOutOfRange (CrashTriage.inRange date) := by
  cases date with
  | none => cases inside
  | some found => exact ok found

lemma read (index : Nat) (column : String) (total : Total) :
    Avoids .dateOutOfRange (total.read index column) := by
  cases total with
  | exact n => exact ok n
  | overflow => exact error nofun
  | approximate => exact error nofun

/-- Rows are made of their totals without a date. -/
lemma readAll {index : Nat} {column : String} (make : α → Int → β) (sums : List (α × Total)) :
    Avoids .dateOutOfRange
      (sums.mapM fun (a, total) => do pure (make a (← total.read index column))) :=
  mapM (fun (_, total) => (read index column total).bind fun _ => ok _) sums

end Avoids

/-! ### Dates from 1970 on -/

namespace Date

/-- The second day of 1970. -/
def secondOf1970 : Date := ⟨719529, by decide, by decide⟩

/-- To go back some days leads before the first day of the calendar's range or to a date. -/
lemma addDays?_neg_eq_none_iff (date : Date) {n : Int} (nonneg : 0 ≤ n) :
    date.addDays? (-n) = none ↔ date.day - n < firstDay := by
  have last := date.le_lastDay
  unfold addDays?
  rw [ofDay?_eq_none_iff]
  omega

lemma isSome_addDays?_neg (date : Date) {n : Int} (nonneg : 0 ≤ n)
    (inside : firstDay ≤ date.day - n) : (date.addDays? (-n)).isSome = true := by
  rw [Option.isSome_iff_ne_none, ne_eq, addDays?_neg_eq_none_iff date nonneg]
  omega

variable {today : Date}

lemma firstDay_add_le_of_late (late : secondOf1970 ≤ today) : firstDay + 1000 ≤ today.day :=
  Int.le_trans (by decide) (le_def.1 late)

/-- From 1970 on the standard cutoff of the hot ranking is a date. -/
lemma isSome_standardCutoff (late : secondOf1970 ≤ today) :
    (today.addDays? (-defaultHotWindow)).isSome = true := by
  have far := firstDay_add_le_of_late late
  have window : defaultHotWindow = 14 := rfl
  exact isSome_addDays?_neg today (by omega) (by omega)

/-- From 1970 on there is a month before the month of today. -/
lemma isSome_firstOfPreviousMonth? (late : secondOf1970 ≤ today) :
    today.firstOfPreviousMonth?.isSome = true := by
  have far := firstDay_add_le_of_late late
  have days := dayOfMonth_bounds today
  obtain ⟨first, begins⟩ := Granularity.exists_bucketStart?_monthly today
  have start : first.day = today.day + (1 - today.dayOfMonth) := ofDay?_eq_some_iff.1 begins
  obtain ⟨eve, before⟩ := Option.isSome_iff_exists.1
    (isSome_addDays?_neg first (show 0 ≤ (1 : Int) by decide) (by omega))
  exact Option.isSome_iff_exists.2 (exists_firstOfPreviousMonth?_of_eve begins before)

end Date

/-! ### Work on the store -/

lemma RankQuery.read_avoids (query : RankQuery) : Avoids .dateOutOfRange query.read := by
  have clause (reading : Reading) (clause : Clause) :
      Avoids .dateOutOfRange (reading.clause clause) := by
    cases clause with
    | compare column comparison operand =>
      exact (Avoids.nestable _).bind fun _ => (Avoids.bindable _).bind fun _ => .ok _
    | oneOf column values =>
      exact (Avoids.bindable _).bind fun _ => (Avoids.nestable _).bind fun _ => .ok _
  exact (Avoids.foldlM clause _ _).bind fun _ => (Avoids.bindable _).bind fun _ => .ok _

namespace Store

variable (store : Store)

lemma rank_avoids (query : RankQuery) : Avoids .dateOutOfRange (store.rank query) := by
  unfold rank
  split
  · exact .ok []
  · refine query.read_avoids.bind fun conjunction => ?_
    refine (Avoids.present _).bind fun buckets => ?_
    refine (Avoids.present _).bind fun reports => ?_
    refine (Avoids.present _).bind fun problems => ?_
    refine (Avoids.nestable _).bind fun _ => ?_
    dsimp only
    split
    · refine (Avoids.ok []).bind fun links => .guarded nofun ?_
      exact (Avoids.readAll RankedProblem.ofCount _).bind fun rows => .ok _
    · refine (Avoids.map _ (.present _)).bind fun links => .guarded nofun ?_
      exact (Avoids.readAll RankedProblem.ofCount _).bind fun rows => .ok _

lemma scope_avoids (opsys version : Option String) :
    Avoids .dateOutOfRange (store.scope opsys version) :=
  ((Avoids.present _).bind fun _ => (Avoids.present _).bind fun _ => .ok _).bind fun _ =>
    (Avoids.bindable _).bind fun _ => .ok _

lemma historySum_avoids (opsys version : Option String) (granularity : Granularity) :
    Avoids .dateOutOfRange (store.historySum opsys version granularity) :=
  (store.scope_avoids opsys version).bind fun _ => (Avoids.present _).bind fun _ => .read _ _ _

lemma componentCounts_avoids (opsys version : Option String) (granularity : Granularity) :
    Avoids .dateOutOfRange (store.componentCounts opsys version granularity) := by
  refine (store.scope_avoids opsys version).bind fun releases => ?_
  refine (Avoids.present _).bind fun buckets => ?_
  refine (Avoids.present _).bind fun reports => ?_
  refine (Avoids.present _).bind fun components => ?_
  refine .guarded nofun ?_
  exact (Avoids.readAll (fun (component : Component) count =>
    ComponentCount.mk component.id component.name count) _).bind fun rows => .ok _

end Store

/-! ### Handlers -/

section
variable {error : ApiError}

/-- Lists of ids are refused with errors of one status. -/
lemma idList_avoids (elsewhere : error.status ≠ 400) (field : String) (cs : List Char) :
    Avoids error (idList field cs) := by
  refine Avoids.mapM (fun piece => ?_) _
  split
  · exact .ok _
  · refine .error fun same => elsewhere ?_
    rw [← same]
    rfl

lemma releaseSelection_avoids (elsewhere : error.status ≠ 400) (value : Option String) :
    Avoids error (releaseSelection value) := by
  cases value with
  | none => exact .ok _
  | some text => exact (idList_avoids elsewhere "releases" text.toList).map _

lemma componentSelection_avoids (elsewhere : error.status ≠ 400) (value : Option String) :
    Avoids error (componentSelection value) := by
  cases value with
  | none => exact .ok _
  | some text => exact (idList_avoids elsewhere "components" text.toList).map _

lemma readSelections_avoids (elsewhere : error.status ≠ 400) (releases components : Option String) :
    Avoids error (readSelections releases components) :=
  (releaseSelection_avoids elsewhere _).bind fun _ =>
    (componentSelection_avoids elsewhere _).bind fun _ => .ok _

end

namespace Service

variable {service : Service}

/-- Work on the store ends in a panic only for want of a date. -/
lemma consult_avoids {α : Type} {lookup : Store → Except Failure α}
    (avoids : ∀ store, Avoids .dateOutOfRange (lookup store)) :
    Avoids (.pool .panicked) (service.consult lookup) := by
  have readable : Avoids .dateOutOfRange (service.session.read lookup) := by
    unfold Session.read
    split
    · exact avoids _
    · exact .error nofun
  unfold consult
  split
  · exact .ok _
  · rename_i failure failed
    rw [failed] at readable
    refine .error fun panicked => readable ?_
    cases failure with
    | dateOutOfRange => rfl
    | _ => cases panicked

/-- No handler's work on the store ends in a panic, whatever it is asked for. -/
structure WorksWithoutPanic (service : Service) : Prop where
  hot : ∀ fields result, service.hot fields = .ok result → Avoids (.pool .panicked) result
  longTerm : ∀ fields, Avoids (.pool .panicked) (service.longTerm fields)
  problem : ∀ id, Avoids (.pool .panicked) (service.problem id)
  releases : ∀ fields, Avoids (.pool .panicked) (service.releases fields)
  componentStats : ∀ fields, Avoids (.pool .panicked) (service.componentStats fields)

/-- From 1970 on no work on the store needs a date outside the calendar's range. -/
lemma worksWithoutPanic (late : Date.secondOf1970 ≤ service.today) : service.WorksWithoutPanic where
  hot fields result answered := by
    unfold Service.hot at answered
    have selections : Avoids (.pool .panicked) (do
        pure (← releaseSelection fields.releases, ← componentSelection fields.components)) :=
      readSelections_avoids (by decide) _ _
    split at answered
    · rename_i error refused
      rw [refused] at selections
      cases answered
      exact .error fun same => selections (by rw [same])
    · obtain ⟨cutoff, -, shape⟩ := bind_eq_ok_iff.1 answered
      rw [← pure_eq_ok_iff.1 shape]
      refine (consult_avoids fun store => ?_).bind fun _ => .ok _
      exact (Avoids.inRange (Date.isSome_standardCutoff late)).bind fun _ => store.rank_avoids _
  longTerm fields := by
    refine (releaseSelection_avoids (by decide) _).bind fun _ => ?_
    refine (componentSelection_avoids (by decide) _).bind fun _ => ?_
    refine (consult_avoids fun store => ?_).bind fun _ => .ok _
    exact (Avoids.inRange (Date.isSome_firstOfPreviousMonth? late)).bind fun _ =>
      (store.rank_avoids _).bind fun _ => .ok _
  problem id := by
    refine (consult_avoids fun store => (Avoids.present _).bind fun _ => .ok _).bind fun found => ?_
    cases found with
    | none => exact .error nofun
    | some problem => exact .ok _
  releases fields :=
    (consult_avoids fun _ => (Avoids.present _).bind fun _ => (Avoids.present _).bind fun _ =>
      .ok _).bind fun _ => .ok _
  componentStats fields :=
    (consult_avoids fun store => (store.historySum_avoids _ _ _).bind fun _ =>
      (store.componentCounts_avoids _ _ _).bind fun _ => .ok _).bind fun _ => .ok _

end Service

/-! ### Answers -/

/-- Whether a request gets as far as the cutoff of the hot ranking: it asks for that ranking, its
fields can be read, and the ids listed in them are ids. -/
structure Request.AsksForHot (request : Request) : Prop where
  route : Route.ofPath? request.pathAndQuery.1 = some .hot
  method : request.method = "GET" ∨ request.method = "HEAD"
  fields : ∃ fields, HotFields.ofForm? (formFields request.pathAndQuery.2) = some fields ∧
    (∃ releases, releaseSelection fields.releases = .ok releases) ∧
    ∃ components, componentSelection fields.components = .ok components

namespace Service

variable {service : Service}

/-- The handler of the hot ranking gives no answer when the cutoff of the settings is no date,
unless it refuses the lists of ids before. -/
lemma hot_eq_error_iff {fields : HotFields} {failure : Failure} :
    service.hot fields = .error failure ↔
      failure = .dateOutOfRange ∧
      service.today.addDays? (-service.ranking.hotWindowDays) = none ∧
      (∃ releases, releaseSelection fields.releases = .ok releases) ∧
      ∃ components, componentSelection fields.components = .ok components := by
  unfold Service.hot Service.cutoff
  cases releaseSelection fields.releases with
  | error refused => simp [bind, Except.bind]
  | ok releases =>
    cases componentSelection fields.components with
    | error refused => simp [bind, Except.bind]
    | ok components =>
      cases service.today.addDays? (-service.ranking.hotWindowDays) with
      | none => simp [bind, Except.bind, pure, Except.pure, inRange, eq_comm]
      | some standard => simp [bind, Except.bind, pure, Except.pure, inRange]

lemma map_eq_error_iff {α β : Type} {x : Except Failure α} {f : α → β} {failure : Failure} :
    (f <$> x) = .error failure ↔ x = .error failure := by
  cases x with
  | error other => simp [Functor.map, Except.map]
  | ok a => simp [Functor.map, Except.map]

/-- A GET request is not answered only where the handler of the hot ranking gives no answer. -/
lemma get_eq_error_iff {route : Route} {query : List UInt8} {failure : Failure} :
    service.get route query = .error failure ↔
      route = .hot ∧ ∃ fields, HotFields.ofForm? (formFields query) = some fields ∧
        service.hot fields = .error failure := by
  unfold get
  dsimp only
  cases route with
  | hot =>
    cases HotFields.ofForm? (formFields query) with
    | none => simp
    | some fields => simp [map_eq_error_iff]
  | health => simp
  | _ =>
    simp only [reduceCtorEq, false_and, iff_false]
    split <;> nofun

/-- A request is not answered only where it is handled like a GET request that is not. -/
lemma respond_eq_error_iff {request : Request} {failure : Failure} :
    service.respond request = .error failure ↔
      (request.method = "GET" ∨ request.method = "HEAD") ∧
      ∃ route, Route.ofPath? request.pathAndQuery.1 = some route ∧
        service.get route request.pathAndQuery.2 = .error failure := by
  unfold respond
  dsimp only
  cases Route.ofPath? request.pathAndQuery.1 with
  | none => simp
  | some route =>
    dsimp only
    by_cases isGet : request.method = "GET"
    · simp [isGet]
    · by_cases isHead : request.method = "HEAD"
      · simp only [if_neg isGet, if_pos isHead, bind_pure_comp, map_eq_error_iff]
        simp [isHead]
      · simp [isGet, isHead]

/-- A request is not answered exactly when it asks for the hot ranking and the cutoff of the
settings is no date. -/
lemma unanswered_iff {request : Request} {failure : Failure} :
    service.respond request = .error failure ↔
      failure = .dateOutOfRange ∧
      service.today.addDays? (-service.ranking.hotWindowDays) = none ∧ request.AsksForHot := by
  rw [respond_eq_error_iff]
  constructor
  · rintro ⟨method, route, found, failed⟩
    obtain ⟨rfl, fields, read, unanswered⟩ := get_eq_error_iff.1 failed
    obtain ⟨same, outside, lists⟩ := hot_eq_error_iff.1 unanswered
    exact ⟨same, outside, found, method, fields, read, lists⟩
  · rintro ⟨same, outside, asks⟩
    obtain ⟨fields, read, lists⟩ := asks.fields
    have unanswered := hot_eq_error_iff.2 ⟨same, outside, lists⟩
    exact ⟨asks.method, .hot, asks.route, get_eq_error_iff.2 ⟨rfl, fields, read, unanswered⟩⟩

/-- Let settings be accepted and today be the second day of 1970 or later. Whatever state the store
is in, a request is answered unless it asks for the hot ranking and the settings put the cutoff
before the first day of the calendar's range; then it is not answered, even if it brings a cutoff of
its own. Every answer is that of a handler whose work on the store has not ended in a panic. -/
theorem answered_unless_cutoff_outside (service : Service) {poolSize : Nat}
    (accepted : service.ranking.fault? poolSize = none)
    (late : Date.secondOf1970 ≤ service.today) :
    (∀ request, (∃ response, service.respond request = .ok response) ↔
      ¬ (service.today.day - service.ranking.hotWindowDays < firstDay ∧ request.AsksForHot)) ∧
    service.WorksWithoutPanic := by
  refine ⟨fun request => ?_, worksWithoutPanic late⟩
  obtain ⟨-, positive, -⟩ := RankingSettings.fault?_eq_none_iff.1 accepted
  have outside := Date.addDays?_neg_eq_none_iff service.today (Int.le_of_lt positive)
  rw [← outside]
  constructor
  · rintro ⟨response, answered⟩ ⟨leaves, asks⟩
    rw [unanswered_iff.2 ⟨rfl, leaves, asks⟩] at answered
    cases answered
  · intro allowed
    cases outcome : service.respond request with
    | ok response => exact ⟨response, rfl⟩
    | error failure => exact absurd (unanswered_iff.1 outcome).2 allowed

/-- The service on a store without rows, on the first day of 2025, with a hot ranking that covers a
hundred million days. -/
def withHugeWindow : Service where
  session := { store := Store.migrated }
  ranking := { hotWindowDays := 100000000 }
  today := Store.newYearsDay

/-- A request for the hot ranking since a day of 2023. -/
def requestSince : Request := { target := "/v1/problems/hot?since=2023-04-01" }

lemma requestSince_asksForHot : requestSince.AsksForHot where
  route := by decide +kernel
  method := .inl rfl
  fields := by
    have read : (HotFields.ofForm? (formFields requestSince.pathAndQuery.2)).map
        (fun fields => (fields.releases, fields.components, fields.since))
        = some (none, none, Date.ofYearMonthDay? 2023 4 1) := by decide +kernel
    obtain ⟨fields, read, same⟩ := Option.map_eq_some_iff.1 read
    obtain ⟨releases, rest⟩ := Prod.mk.inj same
    obtain ⟨components, -⟩ := Prod.mk.inj rest
    refine ⟨fields, read, ?_, ?_⟩
    · rw [releases]
      exact ⟨_, rfl⟩
    · rw [components]
      exact ⟨_, rfl⟩

/-- With such settings a request that brings its own cutoff is not answered, and one for the
long-term ranking is. -/
theorem answered_withHugeWindow :
    (¬ ∃ response, withHugeWindow.respond requestSince = .ok response) ∧
      (∃ response, withHugeWindow.respond { target := "/v1/problems/longterm" } = .ok response) ∧
      withHugeWindow.WorksWithoutPanic := by
  have accepted : withHugeWindow.ranking.fault? 4 = none := rfl
  obtain ⟨answered, works⟩ := answered_unless_cutoff_outside withHugeWindow accepted (by decide)
  have outside : withHugeWindow.today.day - withHugeWindow.ranking.hotWindowDays < firstDay := by
    decide
  refine ⟨fun response => ?_, (answered _).2 fun ⟨_, asks⟩ => ?_, works⟩
  · exact (answered requestSince).1 response ⟨outside, requestSince_asksForHot⟩
  · have route : Route.ofPath? (Request.pathAndQuery { target := "/v1/problems/longterm" }).1
        = some .longTerm := by decide +kernel
    rw [asks.route] at route
    cases route

/-- Accepted settings do not make sure that every request is answered. -/
theorem unanswered_withHugeWindow :
    ¬ ∀ (service : Service) (poolSize : Nat) (request : Request),
      service.ranking.fault? poolSize = none → Date.secondOf1970 ≤ service.today →
        ∃ response, service.respond request = .ok response := by
  intro answers
  obtain ⟨response, answered⟩ := answers withHugeWindow 4 requestSince rfl (by decide)
  have outside : withHugeWindow.today.addDays? (-withHugeWindow.ranking.hotWindowDays) = none :=
    (Date.addDays?_neg_eq_none_iff _ (by decide)).2 (by decide)
  rw [unanswered_iff.2 ⟨rfl, outside, requestSince_asksForHot⟩] at answered
  cases answered

end Service

end CrashTriage
