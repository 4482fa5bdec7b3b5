import FleetConsole.Console

/-!
# Snapshots

A snapshot is all that a view needs to draw one frame, numbered in the order of publication.  The
feed is waiting at first, then connected in one session, and closed for good after that.
-/

namespace FleetConsole

/-- The connection to the swarm.  Times are in nanoseconds. -/
inductive FeedStatus
  | waiting
  | connected (session : SessionId) (since : Nat)
  | closed (since : Nat)
deriving DecidableEq

/-- The progress of the animation. -/
structure AnimationStatus where
  run : Option Nat
  remainingMoves : Nat
  subStep : UInt32
deriving DecidableEq

/-- Whether a run is under way. -/
def AnimationStatus.running (status : AnimationStatus) : Bool := status.run.isSome

structure Snapshot (α : Type) where
  seq : Nat
  identifier : Option String
  droneCount : Nat
  live : List (Position α)
  simulated : List (Rendered α)
  initial : List (Position α)
  yOffset : α
  /-- a command is out -/
  running : Bool
  animation : AnimationStatus
  feed : FeedStatus
deriving DecidableEq

/-- Commands can be given as long as none is out. -/
def Snapshot.controlsEnabled {α : Type} (snapshot : Snapshot α) : Bool := !snapshot.running

namespace Console

variable {α : Type}

def animationStatus (console : Console α) : AnimationStatus where
  run := console.animator.currentRun
  remainingMoves := console.animator.remainingMoves
  subStep := console.animator.subStep

def snapshot (seq : Nat) (feed : FeedStatus) (console : Console α) : Snapshot α where
  seq := seq
  identifier := console.identifier
  droneCount := console.fleet.size
  live := console.fleet.live
  simulated := console.fleet.simulated
  initial := console.fleet.initial
  yOffset := console.fleet.yOffset
  running := console.locked
  animation := console.animationStatus
  feed := feed

end Console

end FleetConsole
