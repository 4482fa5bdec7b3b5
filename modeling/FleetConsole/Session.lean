import FleetConsole.Outbox
import FleetConsole.Publisher

/-!
# The session

The session is the loop that owns the console.  It takes one input at a time, a request or the
firing of its timer, publishes a snapshot if one is due after it, and arms the timer for the next
tick of the run under way.

* **One feed.**  The first feed that opens is the only one; when it closes no other takes its place.
* **Commands.**  Room in the outbox comes first, so a command that cannot be sent locks nothing.
* **The timer.**  A tick that is armed stays armed as it is for as long as its run is under way;
  requests do not put it off.
-/

namespace FleetConsole

/-- What the session is asked for. -/
inductive Request
  /-- a feed opens and brings an outbox of its own -/
  | openFeed (session : SessionId) (capacity : Nat)
  | batch (session : SessionId) (text : String)
  | closeFeed (session : SessionId)
  | move (step : Position Float)
  | goHome
  | commit
deriving DecidableEq

/-- What moves the session. -/
inductive Input
  | request (request : Request)
  | timer
deriving DecidableEq

/-- What the session answers. -/
inductive Reply
  | done
  | targets (targets : List (Position Float))
  | reconciled (outcome : Reconciliation)
  | refused (refusal : Refusal)
deriving DecidableEq

/-- A tick that is armed, and when it is due. -/
structure ArmedTick where
  run : Nat
  due : Nat
deriving DecidableEq

structure Session where
  console : Console Float
  publisher : Publisher Float
  feed : FeedStatus
  outbox : Outbox
  armed : Option ArmedTick
  /-- the last snapshot that was published, or the one of the start -/
  latest : Snapshot Float

/-- A time in nanoseconds as a number of seconds. -/
def seconds (time : Nat) : Float :=
  (time / 1000000000).toUInt64.toFloat + (time % 1000000000).toUInt64.toFloat / 1000000000.0

/-- The ticks between two snapshots at so many snapshots per second. -/
def snapshotInterval (settings : ConsoleSettings Float) (viewRate : UInt32) : UInt32 :=
  let ticksPerSecond := settings.frequency.toFloat / seconds settings.moveTime
  (nearestWhole (ticksPerSecond / (max viewRate 1).toFloat)).toUInt32

/-- Whether a feed is connected in a session. -/
def FeedStatus.isSession (feed : FeedStatus) (session : SessionId) : Bool :=
  match feed with
  | .connected current _ => current = session
  | _ => false

namespace Session

/-- A session before its first input. -/
def fresh (settings : ConsoleSettings Float) (viewRate : UInt32) : Session :=
  let console := Console.fresh settings
  { console := console
    publisher := .every (snapshotInterval settings viewRate)
    feed := .waiting
    outbox := .ofCapacity 0
    armed := none
    latest := console.snapshot 0 .waiting }

/-- Keeps events for the next publication. -/
def record (events : List (Event Float)) (session : Session) : Session :=
  { session with publisher := session.publisher.record events }

/-! ## Requests -/

def openFeed (now : Nat) (id : SessionId) (capacity : Nat) (session : Session) :
    Session × Reply :=
  match session.feed with
  | .waiting =>
      ({ session with feed := .connected id now, outbox := .ofCapacity capacity }.record
        [.feedConnected id], .done)
  | .connected _ _ => (session, .refused .feedBusy)
  | .closed _ => (session, .refused .transportClosed)

/-- The text of a feed that is not the connected one is dropped. -/
def batch (id : SessionId) (text : String) (session : Session) : Session × Reply :=
  if session.feed.isSession id then
    let (console, events) := session.console.handleText text
    ({ session with
        console := console
        publisher := (session.publisher.record events).force }, .done)
  else (session, .done)

def closeFeed (now : Nat) (id : SessionId) (session : Session) : Session × Reply :=
  if session.feed.isSession id then
    ({ session with feed := .closed now }.record [.feedClosed], .done)
  else (session, .done)

/-- Whether a command could be sent. -/
def canSend (session : Session) : Except Refusal Unit :=
  match session.feed with
  | .waiting => .error .notConnected
  | .closed _ => .error .transportClosed
  | .connected _ _ => if session.outbox.hasRoom then .ok () else .error .notConnected

/-- A command is built and put into the outbox. -/
def command
    (build : Console Float → Except Refusal (Console Float × List (Position Float)))
    (session : Session) : Session × Reply :=
  match (do session.canSend; build session.console) with
  | .ok (console, targets) =>
      ({ session with console := console, outbox := session.outbox.push targets }.record
        [.commandSent targets], .targets targets)
  | .error refusal => (session, .refused refusal)

def commit (session : Session) : Session × Reply :=
  match session.console.operatorCommit with
  | .ok (console, outcome) =>
      ({ session with console := console }.record [.reconciled outcome], .reconciled outcome)
  | .error refusal => (session, .refused refusal)

def handle (now : Nat) (request : Request) (session : Session) : Session × Reply :=
  match request with
  | .openFeed id capacity => session.openFeed now id capacity
  | .batch id text => session.batch id text
  | .closeFeed id => session.closeFeed now id
  | .move step => session.command (Console.move step)
  | .goHome => session.command Console.goHome
  | .commit => session.commit

/-! ## The timer -/

/-- The tick that is armed is made, once it is due. -/
def fire (now : Nat) (session : Session) : Session :=
  match session.armed with
  | none => session
  | some tick =>
      if tick.due ≤ now then
        let (console, events) := session.console.tick tick.run
        { session with
          console := console
          publisher := session.publisher.recordTick events
          armed := none }
      else session

/-- The armed tick is kept if it is one of the run under way; else the next one is due after the
waiting time. -/
def arm (now : Nat) (session : Session) : Session :=
  { session with
    armed :=
      match session.console.animator.currentRun, session.armed with
      | none, _ => none
      | some run, some tick =>
          if tick.run = run then some tick
          else some ⟨run, now + session.console.animator.clock.waitingTime⟩
      | some run, none => some ⟨run, now + session.console.animator.clock.waitingTime⟩ }

/-! ## The loop -/

/-- Publishes a snapshot if one is due. -/
def publish (now : Nat) (session : Session) : Session × Option (Publication Float) :=
  if session.publisher.isDue then
    let (publisher, publication) := session.publisher.publish now session.console session.feed
    ({ session with publisher := publisher, latest := publication.snapshot }, some publication)
  else (session, none)

/-- One input, at a time: the answer to it, and what is published after it. -/
def step (now : Nat) (input : Input) (session : Session) :
    Session × Reply × Option (Publication Float) :=
  let (session, reply) :=
    match input with
    | .request request => session.handle now request
    | .timer => (session.fire now, .done)
  let (session, publication) := session.publish now
  (session.arm now, reply, publication)

/-- A sequence of inputs with their times. -/
def run : List (Nat × Input) → Session → Session × List (Reply × Option (Publication Float))
  | [], session => (session, [])
  | (now, input) :: rest, session =>
      let (session, result) := session.step now input
      let (session, results) := run rest session
      (session, result :: results)

/-! ## The far end of the outbox -/

/-- The connection to the swarm takes the commands that wait. -/
def takeCommands (session : Session) : Session × List (List (Position Float)) :=
  let (outbox, commands) := session.outbox.drain
  ({ session with outbox := outbox }, commands)

/-- The connection to the swarm takes no commands any more. -/
def abandonOutbox (session : Session) : Session :=
  { session with outbox := session.outbox.abandon }

end Session

end FleetConsole
