import FleetConsole.Service.Api
import FleetConsole.Startup

/-!
# The program

Reads the environment and the file `.env`, says what it is going to do, and then takes the lines of
standard input as the text of a feed.  Every publication is written to standard output.  The end of
the input ends the program.
-/

namespace FleetConsole

/-- The variables that the program looks at. -/
def variableNames : List String :=
  ["PORT", "SERVER_ADDR", "LOG_LEVEL", "LOG_JSON", "CLIENT_ORIGIN", "STATIC_DIR",
    "SINGLE_MOVE_TIME_MS", "REFRESH_FREQUENCY", "Y_OFFSET", "COMMAND_STEP", "VIEW_FPS",
    "COMMAND_RATE_LIMIT", "RUST_LOG"]

/-- The only session of the feed. -/
def feedSession : SessionId := .numbered 1

/-- Times in milliseconds since the start. -/
def plainSpelling : Spelling where
  time now := toString (now / millisecond)
  welcomeTime now := .natural (now / millisecond)
  uptime now := .natural (now / (1000 * millisecond))
  session _ := "feed"
  requestId := "request"

/-- Writes what a monitor has seen. -/
def writeFrames (frames : List Frame) (output : IO.FS.Stream) : IO Unit :=
  frames.forM fun frame =>
    match frame with
    | .publication publication => output.putStrLn (publication.toJson plainSpelling).text
    | _ => pure ()

/-- Takes the lines of the feed until there are no more. -/
partial def serve (monitor : Nat) (start : Nat) (input output : IO.FS.Stream) (service : Service) :
    IO Unit := do
  let line ← input.getLine
  let now := ((← IO.monoMsNow) - start) * millisecond
  let service := service.waitUntil now
  let service := if line.isEmpty then service else (service.ask (.batch feedSession line)).1
  let (service, frames) := service.takeFrames monitor
  writeFrames frames output
  unless line.isEmpty do
    serve monitor start input output service

def readEnvironment : IO Environment := do
  let values ← variableNames.mapM fun name => do return (name, ← IO.getEnv name)
  return values.filterMap fun (name, value) => value.map fun value => (name, value)

def readEnvFile : IO (Option String) := do
  try
    return some (← IO.FS.readFile ".env")
  catch _ =>
    return none

def writeRecords (settings : Settings) (filter : Log.Filter) (records : List Log.Record) :
    IO Unit :=
  (Log.Record.shown filter records).forM fun record =>
    IO.println (if settings.logJson then record.toJson.text else record.line)

end FleetConsole

open FleetConsole in
def main : IO UInt32 := do
  let environment := Startup.environment (← readEnvironment) (← readEnvFile)
  match Settings.ofEnvironment environment with
  | .error fault =>
      (← IO.getStderr).putStr (Startup.complaint fault)
      return 1
  | .ok settings =>
      let filter := Startup.filter environment settings
      writeRecords settings filter (Startup.opening settings)
      let (service, monitor) := (Service.fresh settings).watch
      let (service, _) := service.ask (.openFeed feedSession Service.feedCapacity)
      serve monitor (← IO.monoMsNow) (← IO.getStdin) (← IO.getStdout) service
      writeRecords settings filter (Startup.closing .terminate)
      return 0
