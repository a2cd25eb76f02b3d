import CrashTriage.Ranking.Basic

/-!
# Hot problems

The ranking of the problems by what occurred since a cutoff.
-/

namespace CrashTriage

/-- The number of days before today at which the cutoff lies when none is given. -/
def defaultHotWindow : Int := 14

/-- The hot ranking as a query: the buckets that start on the cutoff or after it. -/
def hotQuery (granularity : Granularity) (releases : ReleaseSelection)
    (components : Option (List Int)) (cutoff : Date) : RankQuery :=
  ⟨granularity, releases, components, [.compare .bucketStart .ge (.date cutoff)]⟩

/-- The problems ranked by what occurred since a cutoff, at the granularity that a token names. The
default cutoff has to be a date of the calendar's range even when another one is given. -/
def Store.hotProblems (store : Store) (token : String) (releases : ReleaseSelection)
    (components : Option (List Int)) (cutoff : Option Date) (today : Date) :
    Except Failure (List RankedProblem) := do
  let standard ← inRange (today.addDays? (-defaultHotWindow))
  store.rank (hotQuery (.ofToken token) releases components (cutoff.getD standard))

end CrashTriage
