import JudgeDesk.Timestamp

/-!
# Settings

The desk is set up by variables of its environment. Most have a default; a variable that is set has
to read as what it should be.

* `ServerSettings`, `JudgeSettings`, `ConsoleSettings`, `Settings` — the settings;
* `SettingsFault` — why an environment does not do;
* `Settings.ofEnvironment` — the settings of an environment;
* `ConsoleSettings.notificationTtl?` — how long notifications are shown, if that can be measured;
* `ConsoleSettings.viewerCapacity?` — how many messages may wait for a viewer, if any can.
-/

namespace JudgeDesk

/-- Where the desk listens, and what it logs. -/
structure ServerSettings where
  /-- the address -/
  host : String := "0.0.0.0"
  /-- the port -/
  port : UInt16 := 8080
  /-- which events are logged -/
  logFilter : String := "info"
  deriving DecidableEq, Repr

/-- Where the judge is. -/
structure JudgeSettings where
  /-- the address under which all paths of the judge are -/
  baseUrl : String
  /-- how many seconds a call may take -/
  timeout : UInt64 := 10
  deriving DecidableEq, Repr

/-- How the desk works. -/
structure ConsoleSettings where
  /-- for how many seconds a notification is shown -/
  notificationTtl : UInt64 := 3
  /-- how many submissions a page has if nothing is said -/
  submissionsPageSize : UInt32 := 50
  /-- how many problems a page has if nothing is said -/
  problemsPageSize : UInt32 := 50
  /-- how many messages may wait for a viewer -/
  viewerCapacity : UInt64 := 64
  /-- for how many seconds a session may be idle -/
  sessionIdle : UInt64 := 1800
  /-- how many seconds pass between two sweeps -/
  sweepInterval : UInt64 := 60
  deriving DecidableEq, Repr

/-- **All settings.** -/
structure Settings where
  /-- where the desk listens, and what it logs -/
  server : ServerSettings
  /-- where the judge is -/
  judge : JudgeSettings
  /-- how the desk works -/
  console : ConsoleSettings
  deriving DecidableEq, Repr

/-- Why an environment does not do. -/
inductive SettingsFault where
  /-- a variable is not set that has no default -/
  | missing (name : String)
  /-- a variable does not read as what it should be -/
  | invalid (name : String)
  deriving DecidableEq, Repr

/-- The wording of a fault. -/
def SettingsFault.message : SettingsFault → String
  | .missing name => "Missing required environment variable: " ++ name
  | .invalid name => "Invalid value for environment variable: " ++ name

/-- The variables of an environment. -/
abbrev Environment := String → Option String

/-- A variable that has a default. -/
def Environment.read (env : Environment) (name : String) (read? : String → Option α)
    (default : α) : Except SettingsFault α :=
  match env name with
  | none => .ok default
  | some raw =>
    match read? raw with
    | some x => .ok x
    | none => .error (.invalid name)

/-- The settings of the server in an environment. -/
def ServerSettings.ofEnvironment (env : Environment) : Except SettingsFault ServerSettings := do
  let default : ServerSettings := {}
  return {
    host := (env "SERVER_HOST").getD default.host
    port := ← env.read "SERVER_PORT" Text.uint16? default.port
    logFilter := (env "RUST_LOG").getD default.logFilter
  }

/-- An address without the slashes at its end. -/
def withoutTrailingSlashes (url : String) : String :=
  String.ofList (url.toList.reverse.dropWhile (· = '/')).reverse

/-- The settings of the judge in an environment. -/
def JudgeSettings.ofEnvironment (env : Environment) : Except SettingsFault JudgeSettings := do
  let url ← match env "JUDGE_API_URL" with
    | some url => .ok url
    | none => .error (.missing "JUDGE_API_URL")
  return {
    baseUrl := withoutTrailingSlashes url
    timeout := ← env.read "JUDGE_API_TIMEOUT_SECS" Text.uint64? 10
  }

namespace ConsoleSettings

/-- The settings of the desk in an environment. -/
def ofEnvironment (env : Environment) : Except SettingsFault ConsoleSettings := do
  let default : ConsoleSettings := {}
  return {
    notificationTtl := ← env.read "NOTIFICATION_TTL_SECS" Text.uint64? default.notificationTtl
    submissionsPageSize :=
      ← env.read "SUBMISSIONS_PAGE_SIZE" Text.uint32? default.submissionsPageSize
    problemsPageSize := ← env.read "PROBLEMS_PAGE_SIZE" Text.uint32? default.problemsPageSize
    viewerCapacity := ← env.read "VIEWER_CHANNEL_CAPACITY" Text.uint64? default.viewerCapacity
    sessionIdle := ← env.read "SESSION_IDLE_SECS" Text.uint64? default.sessionIdle
    sweepInterval := ← env.read "SESSION_SWEEP_INTERVAL_SECS" Text.uint64? default.sweepInterval
  }

/-- For how many milliseconds a session may be idle. -/
def maxIdle (c : ConsoleSettings) : Nat := c.sessionIdle.toNat * 1000

/-- How many seconds pass between two sweeps: at least one. -/
def sweepPeriod (c : ConsoleSettings) : Nat := max c.sweepInterval.toNat 1

/-- For how many seconds a notification is shown: the setting as a signed number, so that the
greatest settings stand for negative spans. -/
def notificationSeconds (c : ConsoleSettings) : Int := c.notificationTtl.toInt64.toInt

/-- The greatest number of seconds whose milliseconds fit into a signed word. -/
def maxSeconds : Int := 9223372036854775

/-- **How long a notification is shown**, unless its milliseconds do not fit into a signed word. -/
def notificationTtl? (c : ConsoleSettings) : Option Duration :=
  let seconds := c.notificationSeconds
  if -maxSeconds ≤ seconds ∧ seconds ≤ maxSeconds then some (seconds * 1000) else none

/-- The greatest number of messages for which there is a queue. -/
def maxCapacity : Nat := 2305843009213693951

/-- **How many messages may wait for a viewer**, unless there is no such queue: a queue has room for
one message at least, and not for more than can be counted. A viewer without a queue cannot be
opened. -/
def viewerCapacity? (c : ConsoleSettings) : Option UInt64 :=
  if 1 ≤ c.viewerCapacity.toNat ∧ c.viewerCapacity.toNat ≤ maxCapacity then some c.viewerCapacity
  else none

end ConsoleSettings

/-- **The settings of an environment**, or the first fault. -/
def Settings.ofEnvironment (env : Environment) : Except SettingsFault Settings := do
  return {
    server := ← ServerSettings.ofEnvironment env
    judge := ← JudgeSettings.ofEnvironment env
    console := ← ConsoleSettings.ofEnvironment env
  }

end JudgeDesk
