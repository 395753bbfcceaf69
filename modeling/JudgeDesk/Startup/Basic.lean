import JudgeDesk.Settings.Basic
import JudgeDesk.Log.Directives
import JudgeDesk.Startup.Host
import JudgeDesk.Text.Quoted

/-!
# Starting up

The program reads its settings, makes ready to call the judge and takes its port; then it serves.
Anything may fail on the way.

* `LogLine` — an event of the program itself;
* `Startup` — what the program says on the way, and how it ends;
* `Startup.run` — the way.
-/

namespace JudgeDesk

/-- The target under which the program logs its own events. -/
def logTarget : String := "judge_console"

/-- **An event** of the program itself. -/
structure LogLine where
  /-- how much it matters -/
  level : Level
  /-- what is said -/
  message : String
  /-- what is told along with it -/
  fields : List (String × String) := []
  deriving DecidableEq, Repr

/-- An event as it is written. -/
def LogLine.text (l : LogLine) : String :=
  " ".intercalate ([l.level.word, logTarget ++ ":", l.message] ++
    l.fields.map fun (key, value) => key ++ "=" ++ value)

/-- The names of what an event tells. -/
def LogLine.fieldNames (l : LogLine) : List String := "message" :: l.fields.map (·.1)

/-- How starting up ends. -/
inductive StartupEnding where
  /-- the filter of events cannot be read to its end -/
  | unfiltered (fault : DirectiveFault)
  /-- the settings do not do -/
  | misconfigured (fault : SettingsFault)
  /-- the host is no address -/
  | malformedHost
  /-- another program has the port -/
  | portTaken
  /-- the desk serves on an address and a port -/
  | serving (host : String) (port : UInt16)
  deriving DecidableEq, Repr

/-- **What a start says**, and how it ends. -/
structure Startup where
  /-- what is wrong with the filter of events -/
  warnings : List String := []
  /-- the events that are logged -/
  log : List LogLine := []
  /-- how it ends -/
  ending : StartupEnding
  deriving DecidableEq, Repr

namespace Startup

/-- The event of starting. -/
def starting : LogLine := { level := .info, message := "Starting judge console..." }

/-- The event of being ready to call the judge. -/
def ready (s : JudgeSettings) : LogLine :=
  { level := .info, message := "Judge API client ready", fields := [("judge_api", s.baseUrl)] }

/-- The filter of events in the settings of an environment, as much as reads of it, with what is
wrong with the rest. The settings have to do. -/
def settledFilter (env : Environment) : Except Startup (LogFilter × List String) :=
  match Settings.ofEnvironment env with
  | .error fault => .error { ending := .misconfigured fault }
  | .ok settings =>
    match LogFilter.readable settings.server.logFilter with
    | (_, warnings, some tear) => .error { warnings, ending := .unfiltered tear }
    | (filter, warnings, none) => .ok (filter, warnings)

/-- The filter of events in an environment: that of its variable, and where this is not set or has
a directive that does not read, that of the settings. -/
def filter (env : Environment) : Except Startup (LogFilter × List String) :=
  match (env "RUST_LOG").map LogFilter.ofText with
  | some (.ok filter) => .ok (filter, [])
  | some (.error fault) =>
    if fault.isTear then .error { ending := .unfiltered fault } else settledFilter env
  | none => settledFilter env

/-- **Starting up** in an environment, where another program may have the port. -/
def run (env : Environment) (isPortTaken : Bool) : Startup :=
  match filter env with
  | .error s => s
  | .ok (filter, warnings) =>
    let logged := List.filter fun (l : LogLine) => filter.allows logTarget l.fieldNames l.level
    match Settings.ofEnvironment env with
    | .error fault => { warnings, log := logged [starting], ending := .misconfigured fault }
    | .ok s =>
      let log := logged [starting, ready s.judge]
      if !Host.isIpAddress s.server.host then { warnings, log, ending := .malformedHost }
      else if isPortTaken then { warnings, log, ending := .portTaken }
      else { warnings, log, ending := .serving s.server.host s.server.port }

end Startup

namespace StartupEnding

/-- What is said about an end. -/
def report : StartupEnding → List String
  | .unfiltered fault => [fault.message]
  | .misconfigured (.missing name) =>
    ["Failed to load configuration from environment: Missing(" ++ Text.quoted name ++ ")"]
  | .misconfigured (.invalid name) =>
    ["Failed to load configuration from environment: InvalidValue(" ++ Text.quoted name ++ ")"]
  | .malformedHost => ["Error: invalid IP address syntax"]
  | .portTaken => ["Error: Address already in use (os error 98)"]
  | .serving _ _ => []

/-- The exit code of an end. -/
def exitCode : StartupEnding → UInt8
  | .unfiltered _ => 101
  | .misconfigured _ => 101
  | .malformedHost => 1
  | .portTaken => 1
  | .serving _ _ => 0

end StartupEnding

end JudgeDesk
