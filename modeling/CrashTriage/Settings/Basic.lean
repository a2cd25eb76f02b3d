/-!
# Settings

The settings of the ranking service: where it listens, where the store is kept, and how rankings
are cut. Main statement: settings are valid exactly when every setting has a value that makes
sense beside the others.
-/

namespace CrashTriage

/-- Where the service listens. -/
structure ServerSettings where
  host : String
  port : Nat
deriving DecidableEq

/-- Where the store is kept, and how many connections to it there may be. -/
structure DatabaseSettings where
  path : String
  poolSize : Nat := 4
deriving DecidableEq

/-- How rankings are cut: the days before today that the hot ranking covers, and the number of rows
in an answer when the request names none and at most. -/
structure RankingSettings where
  hotWindowDays : Int := 14
  defaultLimit : Nat := 50
  maxLimit : Nat := 500
deriving DecidableEq

/-- The settings of the service. -/
structure Settings where
  server : ServerSettings
  database : DatabaseSettings
  ranking : RankingSettings := {}
deriving DecidableEq

/-- The number of rows in an answer to a request for `requested` rows. -/
def RankingSettings.clampLimit (ranking : RankingSettings) (requested : Option Nat) : Nat :=
  min (requested.getD ranking.defaultLimit) ranking.maxLimit

/-- What is wrong with settings. -/
inductive SettingsFault where
  | noConnections
  | windowNotPositive
  | limitNotPositive
  | defaultAboveMax (defaultLimit maxLimit : Nat)
deriving DecidableEq

/-- The words for a fault. -/
def SettingsFault.message : SettingsFault → String
  | .noConnections => "database.pool_size must be at least 1"
  | .windowNotPositive => "ranking.hot_window_days must be positive"
  | .limitNotPositive => "ranking.default_limit and ranking.max_limit must be positive"
  | .defaultAboveMax defaultLimit maxLimit =>
    "ranking.default_limit (" ++ toString defaultLimit ++ ") exceeds ranking.max_limit ("
      ++ toString maxLimit ++ ")"

/-- The first fault of a pool size and ranking settings, if there is one. -/
def RankingSettings.fault? (ranking : RankingSettings) (poolSize : Nat) : Option SettingsFault :=
  if poolSize = 0 then some .noConnections
  else if ranking.hotWindowDays ≤ 0 then some .windowNotPositive
  else if ranking.defaultLimit = 0 ∨ ranking.maxLimit = 0 then some .limitNotPositive
  else if ranking.maxLimit < ranking.defaultLimit then
    some (.defaultAboveMax ranking.defaultLimit ranking.maxLimit)
  else none

/-- The first fault of settings, if there is one. -/
def Settings.fault? (settings : Settings) : Option SettingsFault :=
  settings.ranking.fault? settings.database.poolSize

theorem RankingSettings.fault?_eq_none_iff {ranking : RankingSettings} {poolSize : Nat} :
    ranking.fault? poolSize = none ↔
      0 < poolSize ∧ 0 < ranking.hotWindowDays ∧ 0 < ranking.defaultLimit
        ∧ ranking.defaultLimit ≤ ranking.maxLimit := by
  unfold fault?
  repeat' split
  all_goals simp; omega

end CrashTriage
