import FleetConsole.Gallery
import FleetConsole.Http.Limiter
import FleetConsole.Session
import FleetConsole.Settings

/-!
# The service

The service runs the session on a clock and connects it with the world: a feed, views, and whoever
else asks for something.  A timer fires at the first whole millisecond at which its tick is due.

Time passes only in `advance`.  Everything else happens at one instant: what is asked for is done,
ticks that are due are made, commands go out, and views look at what has been published.
-/

namespace FleetConsole

/-- What a connection is for. -/
inductive Purpose
  | feed
  | view
  /-- a view inside the service, which notes what it has missed -/
  | monitor
deriving DecidableEq

/-- What the far end of a connection receives. -/
inductive Frame
  | welcome (now : Nat)
  | snapshot (snapshot : Snapshot Float)
  | publication (publication : Publication Float)
  | missed (publications : Nat)
  | targets (targets : List (Position Float))
  | closed

structure Connection where
  id : Nat
  purpose : Purpose
  /-- the service has not ended the connection -/
  serving : Bool
  /-- the far end receives -/
  hearing : Bool
  /-- the frames that the far end has received and not looked at, the oldest first -/
  received : List Frame

structure Service where
  settings : Settings
  session : Session
  /-- the loop of the session has ended -/
  stopped : Bool
  /-- nanoseconds since the start -/
  now : Nat
  limiter : Http.Limiter
  gallery : Gallery
  connections : List Connection
  /-- the session that has brought the outbox -/
  outboxOwner : Option SessionId

namespace Connection

/-- A frame goes to the far end. -/
def deliver (frame : Frame) (connection : Connection) : Connection :=
  if connection.hearing then { connection with received := connection.received ++ [frame] }
  else connection

end Connection

namespace Service

/-- A service at its start, with a limiter. -/
def start (limiter : Http.Limiter) (settings : Settings) : Service :=
  let session := Session.fresh settings.console settings.viewRate
  { settings := settings
    session := session
    stopped := false
    now := 0
    limiter := limiter
    gallery := .opened session.latest
    connections := []
    outboxOwner := none }

/-- A service at its start, whose commands are asked for at one instant. -/
def fresh (settings : Settings) : Service := start (.ofRate settings.commandRate) settings

/-! ## The loop -/

/-- One input to the session, at this instant. -/
def input (input : Input) (service : Service) : Service × Reply :=
  if service.stopped then (service, .refused .consoleStopped)
  else
    let (session, reply, publication) := service.session.step service.now input
    ({ service with
        session := session
        gallery := (publication.elim service.gallery fun p => service.gallery.publish p) }, reply)

def request (request : Request) (service : Service) : Service × Reply :=
  service.input (.request request)

/-! ## Connections -/

def updateConnection (id : Nat) (f : Connection → Connection) (service : Service) : Service :=
  { service with
    connections := service.connections.map fun connection =>
      if connection.id = id then f connection else connection }

/-- The frames of what waits for a view: a monitor notes what it has missed. -/
def framesOf (purpose : Purpose) (view : View) : List Frame :=
  let note :=
    if purpose = .monitor ∧ 0 < view.missed then [Frame.missed view.missed] else []
  note ++ view.backlog.map .publication

/-- All views look at what has been published. -/
def showViews (service : Service) : Service :=
  { service with
    gallery := service.gallery.cleared
    connections := service.connections.map fun connection =>
      match service.gallery.views.find? (·.id = connection.id) with
      | some view =>
          (framesOf connection.purpose view).foldl (fun c frame => c.deliver frame) connection
      | none => connection }

/-- The connection of the feed takes the commands that wait.  When it cannot pass one on it takes no
more. -/
def sendCommands (service : Service) : Service :=
  match service.outboxOwner with
  | some (.socket id) =>
      match service.connections.find? (·.id = id) with
      | some connection =>
          let (session, commands) := service.session.takeCommands
          if !connection.serving || commands.isEmpty then service
          else if connection.hearing then
            { service with session := session }.updateConnection id fun connection =>
              commands.foldl (fun c targets => c.deliver (.targets targets)) connection
          else { service with session := session.abandonOutbox }
      | none => service
  | _ => service

/-- What follows at once from an input. -/
def settle (service : Service) : Service := service.sendCommands.showViews

/-! ## Time -/

/-- The first whole millisecond that is not before a time. -/
def wholeMillisecond (time : Nat) : Nat := (time + millisecond - 1) / millisecond * millisecond

/-- The ticks that the run under way can still need. -/
def ticksLeft (service : Service) : Nat :=
  let animator := service.session.console.animator
  animator.remainingMoves * animator.clock.frequency.toNat

/-- Makes the ticks that are due up to a time, at most so many. -/
def tickUntil (time : Nat) : Nat → Service → Service
  | 0, service => service
  | ticks + 1, service =>
      match service.session.armed with
      | some tick =>
          let due := wholeMillisecond tick.due
          if service.stopped || time < due then service
          else
            let service := { service with now := max service.now due }
            tickUntil time ticks (service.input .timer).1.settle
      | none => service

/-- Time passes until another instant. -/
def waitUntil (time : Nat) (service : Service) : Service :=
  { service.tickUntil time service.ticksLeft with now := max service.now time }

/-- Time passes. -/
def advance (time : Nat) (service : Service) : Service := service.waitUntil (service.now + time)

/-- What happens after an input without time passing. -/
def atOnce (service : Service) : Service := service.settle.waitUntil service.now

/-! ## Requests of the surroundings -/

/-- Does one request and all that follows from it. -/
def ask (asked : Request) (service : Service) : Service × Reply :=
  let (service, reply) := service.request asked
  let owner :=
    match asked, reply with
    | .openFeed id _, .done => some id
    | _, _ => service.outboxOwner
  ({ service with outboxOwner := owner }.atOnce, reply)

/-- Texts of a feed that come in all at once: the views look only after the last. -/
def burst (id : SessionId) (texts : List String) (service : Service) : Service :=
  (texts.foldl (fun service text => (service.request (.batch id text)).1) service).atOnce

/-- Takes the commands that wait in the outbox of a session. -/
def receive (id : SessionId) (service : Service) : Service × List (List (Position Float)) :=
  if service.outboxOwner = some id then
    let (session, commands) := service.session.takeCommands
    ({ service with session := session }, commands)
  else (service, [])

/-- The far end of the outbox of a session goes away, if it is there. -/
def dropReceiver (id : SessionId) (service : Service) : Service × Bool :=
  if service.outboxOwner = some id ∧ !service.session.outbox.abandoned then
    ({ service with session := service.session.abandonOutbox }, true)
  else (service, false)

/-- The loop of the session ends. -/
def stop (service : Service) : Service := { service with stopped := true }

end Service

end FleetConsole
