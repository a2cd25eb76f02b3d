import CrashTriage.Settings.Load

/-!
# The command line

Checks the settings that the service would start with: the configuration file given after `-c` or
`--config`, or else `config.toml`, and the environment.
-/

namespace CrashTriage

/-- The configuration file that arguments name. -/
def configPath : List String → Option String
  | [] => some "config.toml"
  | ["-c", path] => some path
  | ["--config", path] => some path
  | _ => none

/-- The environment variables that hold settings. -/
def settingVariables : List String :=
  ["SERVER__HOST", "SERVER__PORT", "DATABASE__PATH", "DATABASE__POOL_SIZE",
    "RANKING__HOT_WINDOW_DAYS", "RANKING__DEFAULT_LIMIT", "RANKING__MAX_LIMIT"].map
    fun field => (String.ofList Settings.environmentPrefix).toUpper ++ field

/-- What there is to say about settings that were loaded or not: the words, and whether the
service could start. -/
def Settings.report : Except Settings.LoadFault Settings → String × Bool
  | .error .unreadable => ("Configuration error: the file is not a TOML document", false)
  | .error .unplaceable => ("Configuration error: a setting is for a place that no list has", false)
  | .error .unusable => ("Configuration error: a setting is missing or cannot be used", false)
  | .ok settings =>
    match settings.fault? with
    | some fault => ("Configuration error: " ++ fault.message, false)
    | none =>
      ("ready to listen on " ++ settings.server.host ++ ":" ++ toString settings.server.port, true)

/-- The text of a file, if it can be read. -/
def readFile? (path : String) : IO (Option String) := do
  try
    pure (some (← IO.FS.readFile path))
  catch _ => pure none

end CrashTriage

open CrashTriage in
/-- Checks the settings and says what was found. -/
def main (arguments : List String) : IO UInt32 := do
  match configPath arguments with
  | none =>
    IO.eprintln "usage: [-c FILE | --config FILE]"
    pure 2
  | some path =>
    let file ← readFile? path
    let environment ← settingVariables.filterMapM fun name => do
      pure ((← IO.getEnv name).map fun text => (name, text))
    let (words, isReady) := Settings.report (Settings.load file environment)
    if isReady then IO.println words else IO.eprintln words
    pure (if isReady then 0 else 1)
