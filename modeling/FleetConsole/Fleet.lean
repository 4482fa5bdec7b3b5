import FleetConsole.Position
import FleetConsole.Refusal
import FleetConsole.Slots
import FleetConsole.Json.Number

/-!
# The fleet

The fleet keeps three positions of every drone: the live one that the swarm has reported, the
simulated one that an animation moves, and the initial one of the roster.  A drone is known by its
slot, its place in the most recent roster, and each kind of position has a table of its own.

Reconciling makes the simulated positions the live ones.  It is the only way back from simulated to
live positions and takes the vertical offset off again.
-/

namespace FleetConsole

structure Fleet (α : Type) where
  yOffset : α
  liveAt : Slots (Position α)
  simulatedAt : Slots (Rendered α)
  initialAt : Slots (Position α)
deriving DecidableEq

/-- How many drones a reconciliation went over, and how many live positions it moved. -/
structure Reconciliation where
  drones : Nat
  changed : Nat
deriving DecidableEq

namespace Fleet

variable {α : Type} [Coordinate α]

/-- The fleet before the first roster. -/
def empty (yOffset : α) : Fleet α := ⟨yOffset, .empty, .empty, .empty⟩

/-- The number of drones. -/
def size (fleet : Fleet α) : Nat := fleet.liveAt.size

/-! ## Positions in the order of the slots -/

def live (fleet : Fleet α) : List (Position α) := fleet.liveAt.values

def simulated (fleet : Fleet α) : List (Rendered α) := fleet.simulatedAt.values

def initial (fleet : Fleet α) : List (Position α) := fleet.initialAt.values

/-! ## What happens to the fleet -/

/-- A new roster takes the place of everything that was known. -/
def replaceRoster (roster : List (Position α)) (fleet : Fleet α) : Fleet α :=
  let live := Slots.ofList roster
  { fleet with
    liveAt := live
    simulatedAt := live.map fun p => Rendered.ofRaw p fleet.yOffset
    initialAt := live }

/-- The slot that an index of the feed names. -/
def slot (index : Json.Number) (fleet : Fleet α) : Except Refusal Nat :=
  match index.slot?.filter fleet.liveAt.has with
  | some slot => .ok slot
  | none => .error (.outOfRange index.text fleet.size)

/-- The drone of a slot reports where it is. -/
def relocate (slot : Nat) (p : Position α) (fleet : Fleet α) : Except Refusal (Fleet α) :=
  if fleet.liveAt.has slot then .ok { fleet with liveAt := fleet.liveAt.set slot p }
  else .error (.outOfRange (toString slot) fleet.size)

/-- Every simulated drone makes the move at its slot; where there is none it stays. -/
def shift (moves : List (Option (Position α))) (fleet : Fleet α) : Fleet α :=
  { fleet with
    simulatedAt := fleet.simulatedAt.mapSlots fun slot drone =>
      match moves[slot]? with
      | some (some move) => drone.shift move
      | _ => drone }

/-- The simulated positions become the live ones, in the order of the slots. -/
def reconcile (fleet : Fleet α) : Fleet α × Reconciliation :=
  let outcome := fleet.live.zip (fleet.simulated.map fun r => r.toRaw fleet.yOffset)
  ({ fleet with liveAt := fleet.liveAt.renew (outcome.map (·.2)) },
    { drones := outcome.length
      changed := outcome.countP fun (before, after) => before.apart after })

/-! ## Targets of commands -/

/-- Every drone goes by the same move, but never below the ground. -/
def moveTargets (move : Position α) (fleet : Fleet α) : List (Position α) :=
  fleet.live.map fun p => (p.add move).ground

/-- Every drone goes where the roster had it. -/
def homeTargets (fleet : Fleet α) : List (Position α) := fleet.initial

end Fleet

end FleetConsole
