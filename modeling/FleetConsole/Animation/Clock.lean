/-!
# The clock of an animation

A move takes a fixed time and is cut into equal sub-steps.  Times are in nanoseconds.
-/

namespace FleetConsole

/-- How long a move takes, and in how many sub-steps it is made. -/
structure Clock where
  moveTime : Nat
  frequency : UInt32
  frequency_ne_zero : frequency ≠ 0

namespace Clock

/-- A clock with at least one sub-step in a move. -/
def ofFrequency (moveTime : Nat) (frequency : UInt32) : Clock :=
  if h : frequency = 0 then ⟨moveTime, 1, by decide⟩ else ⟨moveTime, frequency, h⟩

/-- The time between two sub-steps. -/
def waitingTime (clock : Clock) : Nat := clock.moveTime / clock.frequency.toNat

end Clock

/-- Nanoseconds in a millisecond. -/
def millisecond : Nat := 1000000

end FleetConsole
