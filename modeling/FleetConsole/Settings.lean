import FleetConsole.Console
import FleetConsole.Settings.Literal
import FleetConsole.Settings.SocketAddress

/-!
# Settings

The settings of the service come from the environment.  A variable that is not set has a default; a
variable that is set must be readable.  First every variable is read, in a fixed order, and then the
values are checked, so that an unreadable one is reported before any that makes no sense.
-/

namespace FleetConsole

/-- The variables that are set.  The first of a name counts. -/
abbrev Environment := List (String × String)

def Environment.get? (environment : Environment) (name : String) : Option String :=
  (environment.find? fun entry => entry.1 = name).map (·.2)

/-- Why a value is refused. -/
inductive ValueFault
  | unreadable
  | notPositive
  | notFinite
deriving DecidableEq

inductive SettingsFault
  | invalid (name : String) (fault : ValueFault)
  | invalidAddress
deriving DecidableEq

def ValueFault.message : ValueFault → String
  | unreadable => "could not be parsed"
  | notPositive => "must be positive"
  | notFinite => "must be finite"

def SettingsFault.message : SettingsFault → String
  | invalid name fault => s!"Invalid value for {name}: {fault.message}"
  | invalidAddress => "Invalid server address format"

structure Settings where
  address : SocketAddress
  logLevel : String
  /-- the log is written as JSON lines -/
  logJson : Bool
  /-- the origins that may use the service from a browser, between commas -/
  clientOrigin : String
  /-- a directory to be served -/
  staticDir : Option String
  moveMilliseconds : Nat
  frequency : UInt32
  yOffset : Float
  /-- how far a command in a direction goes -/
  commandStep : Float
  /-- snapshots per second -/
  viewRate : UInt32
  /-- commands per second -/
  commandRate : UInt32

namespace Settings

/-- The value of a variable, trimmed and read, or a default if it is not set. -/
def valueOf {β : Type} (environment : Environment) (name : String) (default : β)
    (read? : List Char → Option β) : Except SettingsFault β :=
  match environment.get? name with
  | none => .ok default
  | some value =>
      match read? (Text.trim value.toList) with
      | some value => .ok value
      | none => .error (.invalid name .unreadable)

/-- The text of the address.  A port alone wins, and means every interface. -/
def addressText (environment : Environment) : String :=
  match environment.get? "PORT" with
  | some port => "0.0.0.0:" ++ port
  | none => (environment.get? "SERVER_ADDR").getD "0.0.0.0:8080"

/-- The settings as they are spelled. -/
def read (environment : Environment) : Except SettingsFault Settings := do
  let address ←
    match SocketAddress.read? (addressText environment).toList with
    | some address => .ok address
    | none => .error SettingsFault.invalidAddress
  let logJson ← valueOf environment "LOG_JSON" false Literal.boolean?
  let moveMilliseconds ←
    valueOf environment "SINGLE_MOVE_TIME_MS" 1000 (Literal.natural? UInt64.size)
  let frequency ← valueOf environment "REFRESH_FREQUENCY" 30 Literal.word?
  let yOffset ← valueOf environment "Y_OFFSET" 0.5 Literal.float?
  let commandStep ← valueOf environment "COMMAND_STEP" 1.0 Literal.float?
  let viewRate ← valueOf environment "VIEW_FPS" 30 Literal.word?
  let commandRate ← valueOf environment "COMMAND_RATE_LIMIT" 5 Literal.word?
  .ok
    { address := address
      logLevel := (environment.get? "LOG_LEVEL").getD "info"
      logJson := logJson
      clientOrigin := (environment.get? "CLIENT_ORIGIN").getD "http://localhost:8080"
      staticDir := environment.get? "STATIC_DIR"
      moveMilliseconds := moveMilliseconds
      frequency := frequency
      yOffset := yOffset
      commandStep := commandStep
      viewRate := viewRate
      commandRate := commandRate }

/-- The first value that makes no sense. -/
def fault? (settings : Settings) : Option SettingsFault :=
  if settings.moveMilliseconds = 0 then some (.invalid "SINGLE_MOVE_TIME_MS" .notPositive)
  else if settings.frequency = 0 then some (.invalid "REFRESH_FREQUENCY" .notPositive)
  else if settings.viewRate = 0 then some (.invalid "VIEW_FPS" .notPositive)
  else if !settings.yOffset.isFinite then some (.invalid "Y_OFFSET" .notFinite)
  else if !(settings.commandStep.isFinite && 0.0 < settings.commandStep) then
    some (.invalid "COMMAND_STEP" .notPositive)
  else none

/-- The settings of an environment. -/
def ofEnvironment (environment : Environment) : Except SettingsFault Settings := do
  let settings ← read environment
  match settings.fault? with
  | some fault => .error fault
  | none => .ok settings

/-- What the console needs of the settings. -/
def console (settings : Settings) : ConsoleSettings Float where
  moveTime := settings.moveMilliseconds * millisecond
  frequency := settings.frequency
  yOffset := settings.yOffset

end Settings

end FleetConsole
