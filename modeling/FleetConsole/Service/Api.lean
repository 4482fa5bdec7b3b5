import FleetConsole.Http.ApiError
import FleetConsole.Http.MediaType
import FleetConsole.Http.MoveRequest
import FleetConsole.Http.Origin
import FleetConsole.Service.Socket
import FleetConsole.Wire

/-!
# The API

What the service answers to a request.

* **Reading.**  The health and the state of the service are told from the latest snapshot.
* **Commands.**  A command is first understood, then put to the limiter, and then given to the
  session.  One that the limiter refuses never gets there.
* **Everything else** is answered from the method and the path alone.

Every answer names its request and tells an allowed origin back, but for the question of a browser
what is allowed.
-/

namespace FleetConsole

open Json Http

namespace Service

/-! ## Reading -/

def health (spelling : Spelling) (service : Service) : Response :=
  let latest := service.gallery.latest
  .json 200 <| .object
    [("status", .string "ok"), ("uptime_secs", spelling.uptime service.now),
      ("feed", latest.feed.toJson spelling), ("drone_count", natural latest.droneCount),
      ("running", .boolean latest.running)]

def state (spelling : Spelling) (service : Service) : Response :=
  .json 200 (service.gallery.latest.toJson spelling)

/-! ## Commands -/

/-- The answer to what the session has replied. -/
def answer : Reply → Response
  | .done => .empty 200
  | .targets targets =>
      .json 200 (.object [("status", .string "sent"), ("targets", positionsJson targets)])
  | .reconciled outcome => .json 200 (.object outcome.members)
  | .refused refusal => (ApiError.ofRefusal refusal).response

/-- A command, if the limiter allows one more. -/
def limited (command : FleetConsole.Request) (service : Service) : Service × Response :=
  let (limiter, allowed) := service.limiter.check
  let service := { service with limiter := limiter }
  if allowed then
    let (service, reply) := service.ask command
    (service, answer reply)
  else (service, ApiError.tooManyCommands.response)

/-- Whether a request says that its body is JSON. -/
def hasJson (request : Http.Request) : Bool :=
  match request.header? "content-type" with
  | some value => isVisible value && (MediaType.read? value).any MediaType.isJson
  | none => false

def move (request : Http.Request) (service : Service) : Service × Response :=
  if hasJson request then
    match MoveRequest.ofBody request.body with
    | .request asked => service.limited (.move (asked.move service.settings.commandStep))
    | .unreadable => (service, .text 400 "Failed to parse the request body as JSON")
    | .mismatch =>
        (service, .text 422
          ("Failed to deserialize the JSON body into the target type: "
            ++ "data did not match any variant of untagged enum MoveRequest"))
  else (service, .text 415 "Expected request with `Content-Type: application/json`")

def commit (service : Service) : Service × Response :=
  let (service, reply) := service.ask .commit
  (service, answer reply)

/-- A request to a socket that asks for no handshake. -/
def notHandshake (request : Http.Request) : Response :=
  if request.method = "GET" then .text 400 "Connection header did not include 'upgrade'"
  else .text 405 "Request method must be `GET`"

/-! ## Everything -/

/-- A path that the service does not have.  With a directory to serve it is looked for there, and
only reading is possible. -/
def notFound (request : Http.Request) (service : Service) : Response :=
  if service.settings.staticDir.isNone || request.method = "GET" || request.method = "HEAD" then
    .empty 404
  else .wrongMethod "GET,HEAD"

/-- A request with the method of its route. -/
def routed (spelling : Spelling) (route : Route) (request : Http.Request) (service : Service) :
    Service × Response :=
  match route with
  | .health => (service, service.health spelling)
  | .state => (service, service.state spelling)
  | .feedSocket | .viewSocket => (service, notHandshake request)
  | .move => service.move request
  | .goHome => service.limited .goHome
  | .commit => service.commit

/-- A request, without what is common to all answers. -/
def dispatch (spelling : Spelling) (request : Http.Request) (service : Service) :
    Service × Response :=
  match Route.ofPath? request.path with
  | none => (service, service.notFound request)
  | some route =>
      if route.hasMethod request.method then
        let (service, response) := service.routed spelling route request
        (service, if request.method = "HEAD" then response.withoutBody else response)
      else (service, .wrongMethod route.allowed)

/-- The name of a request: its own if it has one. -/
def requestName (spelling : Spelling) (request : Http.Request) : String :=
  match request.header? "x-request-id" with
  | some own => if own.isEmpty || !isVisible own then spelling.requestId else own
  | none => spelling.requestId

/-- The answer to a browser that asks what is allowed. -/
def preflight (request : Http.Request) : Response :=
  match Route.ofPath? request.path with
  | some route => Http.preflight.withHeader "allow" route.allowed
  | none => Http.preflight

/-- A request. -/
def respond (spelling : Spelling) (request : Http.Request) (service : Service) :
    Service × Response :=
  let (service, response) :=
    if request.method = "OPTIONS" then (service, preflight request)
    else
      let (service, response) := service.dispatch spelling request
      (service, response.withHeader "x-request-id" (requestName spelling request))
  (service, withOrigin service.settings.clientOrigin request response)

/-! ## Handshakes -/

/-- The answer to a handshake.  On any path but those of the sockets it is a request like others. -/
def handshake (spelling : Spelling) (target : String) (service : Service) : Handshake :=
  let request : Http.Request := ⟨"GET", target, [], ""⟩
  match Route.ofPath? request.path with
  | some .feedSocket => service.feedHandshake
  | some .viewSocket => .accepted .view
  | _ => .refused (service.respond spelling request).2

/-- Makes the connections of the handshakes that were accepted.  With each handshake comes whether
its far end hears. -/
def acceptAll : List (Bool × Handshake) → Service → Service × List (Option (Nat × Purpose))
  | [], service => (service, [])
  | (hearing, .accepted purpose) :: rest, service =>
      let (service, id) := service.accept purpose hearing
      let (service, others) := acceptAll rest service
      (service, some (id, purpose) :: others)
  | (_, .refused _) :: rest, service =>
      let (service, others) := acceptAll rest service
      (service, none :: others)

/-- Handshakes at the same instant: all are answered before any connection is served.  The numbers
of the connections that were made come with the answers. -/
def connect (spelling : Spelling) (targets : List (String × Bool)) (service : Service) :
    Service × List (Handshake × Option Nat) :=
  let answers := targets.map fun (target, _) => service.handshake spelling target
  let (service, accepted) := service.acceptAll ((targets.map (·.2)).zip answers)
  (service.serve (accepted.filterMap id), answers.zip (accepted.map (·.map (·.1))))

end Service

end FleetConsole
