import FleetConsole.Http.Message
import FleetConsole.Http.Route
import FleetConsole.Service

/-!
# Sockets

A socket is a connection of the feed or of a view.  A handshake is answered from the latest
snapshot; the connection is served after that.  A feed that opens while another has just done so is
closed at once.
-/

namespace FleetConsole

/-- What the far end of a socket does. -/
inductive SocketAct
  | text (s : String)
  /-- a frame that nobody wants -/
  | ignored
  | close
  /-- it goes away without a word -/
  | vanish
  /-- it receives nothing any more, and still sends -/
  | deafen

/-- The answer to a handshake. -/
inductive Handshake
  | accepted (purpose : Purpose)
  | refused (response : Http.Response)

namespace Service

/-- Whether the feed can open, by the latest snapshot. -/
def feedHandshake (service : Service) : Handshake :=
  match service.gallery.latest.feed with
  | .waiting => .accepted .feed
  | .connected _ _ => .refused (.text 409 "A feed is already connected")
  | .closed _ => .refused (.text 410 "Feed session has ended")

/-- The number of the next connection. -/
def nextId (service : Service) : Nat := service.connections.length

/-- A connection is made; it is not served yet. -/
def accept (purpose : Purpose) (hearing : Bool) (service : Service) : Service × Nat :=
  let id := service.nextId
  ({ service with connections := service.connections ++ [⟨id, purpose, true, hearing, []⟩] }, id)

/-- The service ends a connection. -/
def hangUp (id : Nat) (service : Service) : Service :=
  { service with gallery := service.gallery.unsubscribe id }.updateConnection id fun connection =>
    { connection.deliver .closed with serving := false }

/-- The beginning of a view: it subscribes first and then reads the latest snapshot. -/
def serveView (id : Nat) (service : Service) : Service :=
  let service := { service with gallery := service.gallery.subscribe id }
  service.updateConnection id fun connection =>
    (connection.deliver (.welcome service.now)).deliver (.snapshot service.gallery.latest)

/-- The beginning of a monitor, which has seen everything so far. -/
def serveMonitor (id : Nat) (service : Service) : Service :=
  { service with gallery := service.gallery.subscribe id }

/-- The room for commands that a feed brings. -/
def feedCapacity : Nat := 16

/-- The beginning of a feed. -/
def serveFeed (id : Nat) (service : Service) : Service :=
  match service.ask (.openFeed (.socket id) feedCapacity) with
  | (service, .done) => service
  | (service, _) => service.hangUp id

/-- Serves connections that were made at the same instant: a view begins at once, and a feed opens
when the session comes to it. -/
def serve (accepted : List (Nat × Purpose)) (service : Service) : Service :=
  let viewed := accepted.foldl
    (fun service (id, purpose) =>
      match purpose with
      | .view => service.serveView id
      | .monitor => service.serveMonitor id
      | .feed => service) service
  accepted.foldl
    (fun service (id, purpose) =>
      match purpose with
      | .feed => service.serveFeed id
      | _ => service) viewed

/-- A monitor from now on. -/
def watch (service : Service) : Service × Nat :=
  let (service, id) := service.accept .monitor true
  (service.serve [(id, .monitor)], id)

/-- Ends the connection of a feed. -/
def endFeed (id : Nat) (service : Service) : Service :=
  ((service.ask (.closeFeed (.socket id))).1).hangUp id

/-- The far end of a connection that is being served does something. -/
def actServed (connection : Connection) (act : SocketAct) (service : Service) : Service :=
  match act with
  | .text s =>
      if connection.purpose = .feed then
        match service.ask (.batch (.socket connection.id) s) with
        | (service, .refused _) => service.hangUp connection.id
        | (service, _) => service
      else service
  | .ignored => service
  | .deafen => service.updateConnection connection.id fun c => { c with hearing := false }
  | .close =>
      if connection.purpose = .feed then service.endFeed connection.id
      else service.hangUp connection.id
  | .vanish =>
      let service := service.updateConnection connection.id fun c => { c with hearing := false }
      if connection.purpose = .feed then service.endFeed connection.id
      else service.hangUp connection.id

/-- The far end of a connection does something. -/
def act (id : Nat) (act : SocketAct) (service : Service) : Service :=
  match service.connections.find? (·.id = id) with
  | some connection => if connection.serving then service.actServed connection act else service
  | none => service

/-- The frames that the far end of a connection looks at. -/
def takeFrames (id : Nat) (service : Service) : Service × List Frame :=
  let frames := ((service.connections.find? (·.id = id)).map (·.received)).getD []
  (service.updateConnection id fun c => { c with received := [] }, frames)

end Service

end FleetConsole
