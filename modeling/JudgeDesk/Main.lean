import JudgeDesk.Startup.Basic

/-!
# The program

The outer layer: it takes the settings from the environment, starts up, and says how that went.
-/

namespace JudgeDesk

/-- The variables that settings are taken from. -/
def settingNames : List String :=
  ["SERVER_HOST", "SERVER_PORT", "RUST_LOG", "JUDGE_API_URL", "JUDGE_API_TIMEOUT_SECS",
    "NOTIFICATION_TTL_SECS", "SUBMISSIONS_PAGE_SIZE", "PROBLEMS_PAGE_SIZE",
    "VIEWER_CHANNEL_CAPACITY", "SESSION_IDLE_SECS", "SESSION_SWEEP_INTERVAL_SECS"]

/-- The environment of the process, as far as settings are taken from it. -/
def readEnvironment : IO Environment := do
  let found ← settingNames.mapM fun name => do
    return (name, ← IO.getEnv name)
  return fun name => (found.lookup name).join

end JudgeDesk

/-- Starts up and reports. -/
def main : IO UInt32 := do
  let s := JudgeDesk.Startup.run (← JudgeDesk.readEnvironment) false
  for line in s.log do
    IO.println line.text
  for line in s.warnings ++ s.ending.report do
    IO.eprintln line
  return s.ending.exitCode.toUInt32
