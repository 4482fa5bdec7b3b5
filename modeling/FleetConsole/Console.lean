import FleetConsole.Animation.Animator
import FleetConsole.Event
import FleetConsole.Feed.Message

/-!
# The console

The console owns the fleet and its animation.  It is told what the feed says, ticks the animation
and builds commands.

* **The lock.**  A command locks the console until the swarm reports ready; until then no other
  command is built.
* **Reconciliation.**  When a run is completed its outcome becomes live, at once if the console is
  not locked, and with the next ready if it is.  A new roster or a new plan drops an outcome that is
  still waiting.
* **Faults.**  Every field of a message is handled for itself: one that is refused is reported and
  changes nothing.

`handleLines_append` says that lines handled together are lines handled one after the other.
-/

namespace FleetConsole

/-- How long a move takes, in nanoseconds, its sub-steps, and the vertical offset of the scene. -/
structure ConsoleSettings (α : Type) where
  moveTime : Nat
  frequency : UInt32
  yOffset : α

structure Console (α : Type) where
  fleet : Fleet α
  animator : Animator α
  identifier : Option String
  /-- a command is out and the swarm has not reported ready since -/
  locked : Bool
  /-- the completed run whose outcome waits for the swarm to be ready -/
  deferred : Option Nat

namespace Console

variable {α : Type} [Coordinate α]

/-- A console that has been told nothing. -/
def fresh (settings : ConsoleSettings α) : Console α where
  fleet := .empty settings.yOffset
  animator := .idle (.ofFrequency settings.moveTime settings.frequency)
  identifier := none
  locked := false
  deferred := none

/-! ## Handlers -/

/-- What changes the console and tells events about it. -/
abbrev Handler (α : Type) := Console α → Console α × List (Event α)

/-- Handlers one after the other. -/
def inTurn : List (Handler α) → Handler α
  | [], console => (console, [])
  | handler :: rest, console =>
      let (console, events) := handler console
      let (console, more) := inTurn rest console
      (console, events ++ more)

omit [Coordinate α] in
theorem inTurn_append (first second : List (Handler α)) (console : Console α) :
    inTurn (first ++ second) console =
      ((inTurn second (inTurn first console).1).1,
        (inTurn first console).2 ++ (inTurn second (inTurn first console).1).2) := by
  induction first generalizing console with
  | nil => simp [inTurn]
  | cons handler rest ih => simp [inTurn, ih]

/-! ## Runs and their outcome -/

/-- The simulated positions become live, and no outcome waits any more. -/
def reconcile (console : Console α) : Console α × Reconciliation :=
  let (fleet, outcome) := console.fleet.reconcile
  ({ console with fleet := fleet, deferred := none }, outcome)

/-- The simulated positions become live, whether or not a run is under way. -/
def commit : Handler α := fun console =>
  let (console, outcome) := console.reconcile
  (console, [.reconciled outcome])

/-- A run has made its last move. -/
def completeRun (run : Nat) : Handler α := fun console =>
  if console.locked then
    ({ console with deferred := some run }, [.animationCompleted run, .commitDeferred run])
  else
    let (console, events) := commit console
    (console, .animationCompleted run :: events)

/-- One sub-step of a run, if it is the one under way. -/
def tick (run : Nat) : Handler α := fun console =>
  let (animator, fleet, outcome) := console.animator.tick run console.fleet
  let console := { console with animator := animator, fleet := fleet }
  match outcome with
  | .completed run => completeRun run console
  | _ => (console, [])

/-- A plan takes the place of the run under way. -/
def startPlan (paths : List (List (Position α))) (console : Console α) :
    Except Refusal (Console α × List (Event α)) :=
  match console.animator.start paths console.fleet.size with
  | .error fault => .error (.invalidPlan fault.message)
  | .ok (animator, .started run steps) =>
      .ok ({ console with animator := animator, deferred := none }, [.animationStarted run steps])
  | .ok (animator, .finished run) =>
      let (console, events) :=
        completeRun run { console with animator := animator, deferred := none }
      .ok (console, .animationStarted run 0 :: events)
  | .ok (animator, .empty) => .ok ({ console with animator := animator }, [])

/-! ## Messages of the feed -/

/-- A refusal is told as an event and changes nothing. -/
def orReject (attempt : Console α → Except Refusal (Console α × List (Event α))) : Handler α :=
  fun console =>
    match attempt console with
    | .ok result => result
    | .error refusal => (console, [.rejected refusal])

def takeIdentifier : Option String → Handler α
  | none, console => (console, [])
  | some identifier, console =>
      ({ console with identifier := some identifier }, [.identifierChanged identifier])

/-- A roster of another size ends the run under way. -/
def takeRoster : Option (List (Position α)) → Handler α
  | none, console => (console, [])
  | some roster, console =>
      let next := { console with fleet := console.fleet.replaceRoster roster, deferred := none }
      if roster.length = console.fleet.size then (next, [.rosterReplaced roster.length])
      else
        let (animator, cancelled) := console.animator.cancel
        ({ next with animator := animator },
          (cancelled.map .animationCancelled).toList ++ [.rosterReplaced roster.length])

/-- A single drone reports where it is.  An index without a position, or the other way round, says
nothing. -/
def takeUpdate : Option Json.Number → Option (Position α) → Handler α
  | some index, some location =>
      orReject fun console => do
        let slot ← console.fleet.slot index
        let fleet ← console.fleet.relocate slot location
        .ok ({ console with fleet := fleet }, [.liveUpdated slot])
  | _, _ => fun console => (console, [])

def takePlan : Option (List (List (Position α))) → Handler α
  | none => fun console => (console, [])
  | some paths => orReject (startPlan paths)

/-- The swarm is ready for the next command, and an outcome that waits becomes live. -/
def takeReady : Option Bool → Handler α
  | some true => fun console =>
      let console := { console with locked := false }
      if console.deferred.isSome then
        let (console, events) := commit console
        (console, .controlsEnabled :: events)
      else (console, [.controlsEnabled])
  | _ => fun console => (console, [])

/-- The fields of a message are handled in a fixed order. -/
def handle (message : Message α) : Handler α :=
  inTurn
    [takeIdentifier message.identifier, takeRoster message.drones,
      takeUpdate message.droneId message.location, takePlan message.paths,
      takeReady message.ready]

/-- A line that could be read is handled, any other is rejected. -/
def handleLine : Except Json.Problem (Message α) → Handler α
  | .ok message => handle message
  | .error problem => fun console =>
      (console, [.rejected (.malformedMessage problem.message)])

/-- Lines are handled in order. -/
def handleLines (lines : List (Except Json.Problem (Message α))) : Handler α :=
  inTurn (lines.map handleLine)

/-- Lines handled together are lines handled one after the other. -/
theorem handleLines_append (first second : List (Except Json.Problem (Message α)))
    (console : Console α) :
    handleLines (first ++ second) console =
      ((handleLines second (handleLines first console).1).1,
        (handleLines first console).2
          ++ (handleLines second (handleLines first console).1).2) := by
  simp [handleLines, inTurn_append]

/-- A text of the feed. -/
def handleText (text : String) : Handler Float := handleLines (Feed.readLines text.toList)

/-! ## Commands of the operator -/

/-- Commands need a fleet and an open lock. -/
def ready (console : Console α) : Except Refusal Unit :=
  if console.locked then .error .commandsLocked
  else if console.fleet.size = 0 then .error .emptyFleet
  else .ok ()

/-- A command that moves every drone by the same move. -/
def move (step : Position α) (console : Console α) :
    Except Refusal (Console α × List (Position α)) := do
  console.ready
  .ok ({ console with locked := true }, console.fleet.moveTargets step)

/-- A command that sends every drone back to where the roster had it. -/
def goHome (console : Console α) : Except Refusal (Console α × List (Position α)) := do
  console.ready
  .ok ({ console with locked := true }, console.fleet.homeTargets)

/-- The operator declares the simulated positions live. -/
def operatorCommit (console : Console α) : Except Refusal (Console α × Reconciliation) := do
  console.ready
  .ok console.reconcile

end Console

end FleetConsole
