import FleetConsole.Animation.Clock
import FleetConsole.Fleet

/-!
# The animator

A plan has one path of moves per drone, all of the same length.  The animator leads the simulated
drones along their paths in lock-step: one tick is one sub-step of the move that is next on every
path.  A run is a plan under way; each has a number of its own, and a tick that was meant for
another run does nothing.
-/

namespace FleetConsole

/-- What is wrong with a plan. -/
inductive PlanFault
  | pathCount (paths fleetSize : Nat)
  | pathLength (drone moves expected : Nat)
deriving DecidableEq

def PlanFault.message : PlanFault → String
  | pathCount paths fleetSize => s!"plan has {paths} paths for a fleet of {fleetSize}"
  | pathLength drone moves expected =>
      s!"path of drone {drone} has {moves} moves, expected {expected}"

/-- A plan under way: the moves still to make, and the sub-steps made of the next ones. -/
structure Run (α : Type) where
  id : Nat
  paths : List (List (Position α))
  subStep : UInt32
deriving DecidableEq

/-- What comes of a plan. -/
inductive RunStart
  | started (run steps : Nat)
  /-- there was no move to make -/
  | finished (run : Nat)
  /-- there was no path -/
  | empty
deriving DecidableEq

/-- What comes of a tick. -/
inductive TickOutcome
  | idle
  | stale
  | stepped (run : Nat)
  | completed (run : Nat)
deriving DecidableEq

structure Animator (α : Type) where
  clock : Clock
  run : Option (Run α)
  /-- the number of the last run, zero before the first.  Runs are counted in 64 bits, and this is
  their count as long as there are fewer than 2 ^ 64 of them. -/
  lastRun : Nat

namespace Animator

variable {α : Type}

def idle (clock : Clock) : Animator α := ⟨clock, none, 0⟩

/-- The run under way. -/
def currentRun (animator : Animator α) : Option Nat := animator.run.map (·.id)

/-- The moves still to make on the first path, and so on every path. -/
def remainingMoves (animator : Animator α) : Nat :=
  match animator.run with
  | some run => (run.paths.head?.map List.length).getD 0
  | none => 0

/-- The sub-steps made of the moves under way. -/
def subStep (animator : Animator α) : UInt32 :=
  match animator.run with
  | some run => run.subStep
  | none => 0

/-- The fault of the first path that is not as long as the one of slot zero. -/
def lengthFault? (steps : Nat) : Nat → List (List (Position α)) → Option PlanFault
  | _, [] => none
  | drone, path :: paths =>
      if path.length = steps then lengthFault? steps (drone + 1) paths
      else some (.pathLength drone path.length steps)

/-- A plan takes the place of the run under way, unless it is at fault or empty. -/
def start (paths : List (List (Position α))) (fleetSize : Nat) (animator : Animator α) :
    Except PlanFault (Animator α × RunStart) :=
  match paths with
  | [] => .ok (animator, .empty)
  | first :: _ =>
      if paths.length ≠ fleetSize then .error (.pathCount paths.length fleetSize)
      else
        match lengthFault? first.length 0 paths with
        | some fault => .error fault
        | none =>
            let run := animator.lastRun + 1
            if first.isEmpty then
              .ok ({ animator with run := none, lastRun := run }, .finished run)
            else
              .ok ({ animator with run := some ⟨run, paths, 0⟩, lastRun := run },
                .started run first.length)

/-- The run under way is dropped. -/
def cancel (animator : Animator α) : Animator α × Option Nat :=
  ({ animator with run := none }, animator.currentRun)

/-- The run after a sub-step.  With the last sub-step of a move the move is done, and with the last
move the run. -/
def advance (clock : Clock) (run : Run α) : Option (Run α) :=
  if run.subStep + 1 < clock.frequency then some { run with subStep := run.subStep + 1 }
  else
    let paths := run.paths.map List.tail
    if paths.all List.isEmpty then none else some { run with paths := paths, subStep := 0 }

/-- The part of the next move of every path that one sub-step makes. -/
def subMoves [Coordinate α] (clock : Clock) (run : Run α) : List (Option (Position α)) :=
  run.paths.map fun path =>
    path.head?.map fun move => move.scale (Coordinate.portion clock.frequency)

/-- One sub-step of a run, if it is the one under way. -/
def tick [Coordinate α] (id : Nat) (animator : Animator α) (fleet : Fleet α) :
    Animator α × Fleet α × TickOutcome :=
  match animator.run with
  | none => (animator, fleet, .idle)
  | some run =>
      if run.id ≠ id then (animator, fleet, .stale)
      else
        let fleet := fleet.shift (subMoves animator.clock run)
        match advance animator.clock run with
        | none => ({ animator with run := none }, fleet, .completed id)
        | some next => ({ animator with run := some next }, fleet, .stepped id)

end Animator

end FleetConsole
