import FleetConsole.Json.Value
import FleetConsole.Publisher

/-!
# What goes over the wire

The values in which positions, events and snapshots are sent.  How times and sessions are spelled is
not for the console to say: the surroundings know the clock and name the sessions.
-/

namespace FleetConsole

open Json

/-- How the surroundings spell times, in nanoseconds since the start, and name what they name. -/
structure Spelling where
  time : Nat → String
  /-- the time that a view is welcomed with -/
  welcomeTime : Nat → Json
  /-- the time that the service has been up -/
  uptime : Nat → Json
  session : SessionId → String
  /-- a name for a request that has none -/
  requestId : String

def Position.toJson (p : Position Float) : Json :=
  .object [("X", real p.x), ("Y", real p.y), ("Z", real p.z)]

def Rendered.toJson (r : Rendered Float) : Json := r.position.toJson

def positionsJson (ps : List (Position Float)) : Json := .list (ps.map Position.toJson)

/-- A command to the swarm. -/
def targetsJson (targets : List (Position Float)) : Json :=
  .object [("Targets", positionsJson targets)]

/-- Something that may be missing. -/
def optionalJson {β : Type} (encode : β → Json) : Option β → Json
  | none => .null
  | some value => encode value

/-- What the views are told when the feed has closed. -/
def closedNotice : String := "Connection to the swarm closed"

def Reconciliation.members (outcome : Reconciliation) : List (String × Json) :=
  [("drones", natural outcome.drones), ("changed", natural outcome.changed)]

/-- The kind of an event. -/
def Event.kind {α : Type} : Event α → String
  | identifierChanged _ => "identifier_changed"
  | rosterReplaced _ => "roster_replaced"
  | liveUpdated _ => "live_updated"
  | animationStarted _ _ => "animation_started"
  | animationCompleted _ => "animation_completed"
  | animationCancelled _ => "animation_cancelled"
  | commitDeferred _ => "commit_deferred"
  | reconciled _ => "reconciled"
  | controlsEnabled => "controls_enabled"
  | commandSent _ => "command_sent"
  | rejected _ => "rejected"
  | feedConnected _ => "feed_connected"
  | feedClosed => "feed_closed"

/-- What is told about an event besides its kind. -/
def Event.members (spelling : Spelling) : Event Float → List (String × Json)
  | identifierChanged identifier => [("identifier", .string identifier)]
  | rosterReplaced droneCount => [("drone_count", natural droneCount)]
  | liveUpdated drone => [("drone_id", natural drone)]
  | animationStarted run steps => [("run_id", natural run), ("steps", natural steps)]
  | animationCompleted run | animationCancelled run | commitDeferred run =>
      [("run_id", natural run)]
  | reconciled outcome => outcome.members
  | controlsEnabled => []
  | commandSent targets => [("targets", positionsJson targets)]
  | rejected refusal => [("code", .string refusal.code), ("message", .string refusal.message)]
  | feedConnected session => [("session_id", .string (spelling.session session))]
  | feedClosed => [("notice", .string closedNotice)]

def Event.toJson (spelling : Spelling) (event : Event Float) : Json :=
  .object (("event_type", .string event.kind) :: event.members spelling)

def eventsJson (spelling : Spelling) (events : List (Event Float)) : Json :=
  .list (events.map (Event.toJson spelling))

def FeedStatus.toJson (spelling : Spelling) : FeedStatus → Json
  | waiting => .object [("state", .string "waiting")]
  | connected session since =>
      .object [("state", .string "connected"), ("session_id", .string (spelling.session session)),
        ("since", .string (spelling.time since))]
  | closed since =>
      .object [("state", .string "closed"), ("at", .string (spelling.time since))]

def AnimationStatus.toJson (status : AnimationStatus) : Json :=
  .object
    [("state", .string (if status.running then "running" else "idle")),
      ("run_id", optionalJson natural status.run),
      ("remaining_moves", natural status.remainingMoves),
      ("sub_step", natural status.subStep.toNat)]

/-- The members of a snapshot that show the console. -/
def Snapshot.consoleMembers (snapshot : Snapshot Float) : List (String × Json) :=
  [("identifier", optionalJson Json.string snapshot.identifier),
    ("drone_count", natural snapshot.droneCount),
    ("live", positionsJson snapshot.live),
    ("simulated", .list (snapshot.simulated.map Rendered.toJson)),
    ("initial", positionsJson snapshot.initial),
    ("y_offset", real snapshot.yOffset),
    ("running", .boolean snapshot.running),
    ("controls_enabled", .boolean snapshot.controlsEnabled),
    ("animation", snapshot.animation.toJson)]

def Snapshot.toJson (spelling : Spelling) (snapshot : Snapshot Float) : Json :=
  .object
    (("seq", natural snapshot.seq) :: snapshot.consoleMembers
      ++ [("feed", snapshot.feed.toJson spelling)])

/-- The message of a publication to the views. -/
def Publication.toJson (spelling : Spelling) (publication : Publication Float) : Json :=
  .object
    [("type", .string "snapshot"), ("snapshot", publication.snapshot.toJson spelling),
      ("events", eventsJson spelling publication.events)]

/-- The first message to a view. -/
def welcomeJson (spelling : Spelling) (now : Nat) : Json :=
  .object [("type", .string "welcome"), ("server_time", spelling.welcomeTime now)]

end FleetConsole
