import FleetConsole.Log.Record
import FleetConsole.Settings.EnvFile

/-!
# Start and end of the service

The service reads its settings, says in the log what it is going to do, and serves until it is told
to stop.  With settings that make no sense it does not start.
-/

namespace FleetConsole

/-- What tells the service to stop. -/
inductive Signal
  | terminate
  | interrupt
deriving DecidableEq

/-- How the service ends. -/
structure Exit where
  code : Nat
  /-- what it says about its end -/
  message : Option String
  log : List Log.Record

namespace Startup

/-- The target of what the service says about itself. -/
def mainTarget : String := "swarm_console"

/-- The target of what it says about its routes. -/
def routesTarget : String := "swarm_console::http::routes"

def note (message : String) : Log.Record := ⟨mainTarget, message, []⟩

/-- What the service says before it serves. -/
def opening (settings : Settings) : List Log.Record :=
  let address := settings.address.text
  [note "Starting Swarm Console", note ("Server address: " ++ address),
    ⟨mainTarget, "Simulation settings",
      [("single_move_ms", .natural settings.moveMilliseconds),
        ("refresh_frequency", .natural settings.frequency.toNat),
        ("y_offset", .real settings.yOffset)]⟩]
    ++ (settings.staticDir.map fun dir =>
        ⟨routesTarget, "Serving console assets", [("static_dir", .text dir)]⟩).toList
    ++ [note ("Server listening on " ++ address),
      note ("Health check: http://" ++ address ++ "/health"),
      note ("Feed endpoint: ws://" ++ address ++ "/ws/feed"),
      note ("View endpoint: ws://" ++ address ++ "/ws/view")]

def signalName : Signal → String
  | .terminate => "terminate signal"
  | .interrupt => "Ctrl+C"

/-- What the service says when it ends. -/
def closing (signal : Signal) : List Log.Record :=
  [note ("Received " ++ signalName signal ++ ", starting graceful shutdown"),
    note "Server shutdown complete"]

/-- The filter of the log: the one of its own variable, if it is set and can be read, and else the
one of the settings. -/
def filter (environment : Environment) (settings : Settings) : Log.Filter :=
  ((environment.get? "RUST_LOG").bind Log.Filter.read?).getD (.ofText settings.logLevel)

/-- The environment with what the environment file says, if there is one. -/
def environment (given : Environment) (file : Option String) : Environment :=
  match file with
  | some file => EnvFile.load file given
  | none => given

/-- What the service says when its settings make no sense. -/
def complaint (fault : SettingsFault) : String := "Error: " ++ fault.message ++ "\n"

/-- The service from start to end. -/
def run (given : Environment) (file : Option String) (signal : Signal) : Exit :=
  let environment := environment given file
  match Settings.ofEnvironment environment with
  | .error fault => ⟨1, some (complaint fault), []⟩
  | .ok settings =>
      ⟨0, none, Log.Record.shown (filter environment settings) (opening settings ++ closing signal)⟩

/-- Whether the log is written as JSON. -/
def isJson (given : Environment) (file : Option String) : Bool :=
  match Settings.ofEnvironment (environment given file) with
  | .ok settings => settings.logJson
  | .error _ => false

end Startup

end FleetConsole
