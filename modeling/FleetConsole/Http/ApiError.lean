import FleetConsole.Http.Message
import FleetConsole.Refusal

/-!
# Errors of the API

The kinds of failure that a client is told apart, each with a status.  What the client sends wrong,
what the console cannot do now, and what it could do only with a feed are different kinds.
-/

namespace FleetConsole.Http

inductive ApiError
  | badRequest (message : String)
  | conflict (message : String)
  | unavailable (message : String)
  | tooManyCommands
  | internal (message : String)
deriving DecidableEq

namespace ApiError

/-- The error that a refusal of the console becomes. -/
def ofRefusal (refusal : Refusal) : ApiError :=
  match refusal with
  | .outOfRange .. | .invalidPlan _ | .malformedMessage _ => badRequest refusal.message
  | .commandsLocked | .emptyFleet | .feedBusy => conflict refusal.message
  | .notConnected | .transportClosed => unavailable refusal.message
  | .consoleStopped => internal refusal.message

def status : ApiError → Nat
  | badRequest _ => 400
  | conflict _ => 409
  | unavailable _ => 503
  | tooManyCommands => 429
  | internal _ => 500

/-- What the client is told. -/
def message : ApiError → String
  | badRequest message | conflict message | unavailable message | internal message => message
  | tooManyCommands => "Too many commands"

/-- The error with its kind, for the log. -/
def text : ApiError → String
  | badRequest message => "Bad request: " ++ message
  | conflict message => "Conflict: " ++ message
  | unavailable message => "Service unavailable: " ++ message
  | tooManyCommands => "Too many commands"
  | internal message => "Internal error: " ++ message

def response (error : ApiError) : Response :=
  .json error.status (.object [("error", .string error.message)])

end ApiError

end FleetConsole.Http
