import FleetConsole.Snapshot

/-!
# The publisher

The publisher decides when a snapshot is due and keeps the events in between.  Ticks alone make one
due after a fixed number of them; any event makes one due at once.
-/

namespace FleetConsole

/-- A snapshot with the events since the one before, and the time at which it was taken. -/
structure Publication (α : Type) where
  time : Nat
  snapshot : Snapshot α
  events : List (Event α)
deriving DecidableEq

structure Publisher (α : Type) where
  /-- ticks since the last snapshot -/
  ticks : UInt32
  /-- ticks after which a snapshot is due -/
  interval : UInt32
  forced : Bool
  /-- the number of the last snapshot.  Snapshots are counted in 64 bits, and this is their count as
  long as there are fewer than 2 ^ 64 of them. -/
  seq : Nat
  pending : List (Event α)
deriving DecidableEq

namespace Publisher

variable {α : Type}

/-- A publisher with an interval of at least one tick. -/
def every (interval : UInt32) : Publisher α := ⟨0, max interval 1, false, 0, []⟩

/-- Keeps events. -/
def record (events : List (Event α)) (publisher : Publisher α) : Publisher α :=
  { publisher with
    forced := publisher.forced || !events.isEmpty
    pending := publisher.pending ++ events }

/-- Counts a tick and keeps its events. -/
def recordTick (events : List (Event α)) (publisher : Publisher α) : Publisher α :=
  { publisher with ticks := publisher.ticks + 1 }.record events

/-- Something has changed without an event. -/
def force (publisher : Publisher α) : Publisher α := { publisher with forced := true }

def isDue (publisher : Publisher α) : Bool :=
  publisher.forced || publisher.interval ≤ publisher.ticks

/-- The next publication; the counting begins again. -/
def publish (now : Nat) (console : Console α) (feed : FeedStatus) (publisher : Publisher α) :
    Publisher α × Publication α :=
  let seq := publisher.seq + 1
  ({ publisher with ticks := 0, forced := false, seq := seq, pending := [] },
    { time := now, snapshot := console.snapshot seq feed, events := publisher.pending })

end Publisher

end FleetConsole
