import FleetConsole.Position

/-!
# The outbox

Commands wait in the outbox for the connection that takes them to the swarm.  It has room for a
fixed number of them, and none at all once nobody takes them any more.
-/

namespace FleetConsole

structure Outbox where
  capacity : Nat
  /-- the targets of the commands that wait, the oldest first -/
  waiting : List (List (Position Float))
  /-- nobody takes the commands any more -/
  abandoned : Bool
deriving DecidableEq

namespace Outbox

def ofCapacity (capacity : Nat) : Outbox := ⟨capacity, [], false⟩

def hasRoom (outbox : Outbox) : Bool :=
  !outbox.abandoned && outbox.waiting.length < outbox.capacity

/-- One more command. -/
def push (targets : List (Position Float)) (outbox : Outbox) : Outbox :=
  { outbox with waiting := outbox.waiting ++ [targets] }

/-- All commands are taken. -/
def drain (outbox : Outbox) : Outbox × List (List (Position Float)) :=
  ({ outbox with waiting := [] }, outbox.waiting)

/-- What waits is lost, and nothing is taken any more. -/
def abandon (outbox : Outbox) : Outbox := { outbox with waiting := [], abandoned := true }

end Outbox

end FleetConsole
