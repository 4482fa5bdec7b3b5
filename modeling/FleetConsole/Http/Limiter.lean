/-!
# The command limiter

All operators together may give so many commands per second, at least one.  Whether one more is
allowed is for the clock of the limiter to say, which is outside of this project.  So a limiter
comes with its verdicts: on the first command that it is asked for, on the second and so on, and
they can be any.
-/

namespace FleetConsole.Http

structure Limiter where
  /-- the commands that it was asked for -/
  asked : Nat
  /-- whether a command is allowed, by how many it was asked for before -/
  allows : Nat → Bool

namespace Limiter

/-- A limiter of so many commands per second, for commands that are all asked for at one instant. -/
def ofRate (perSecond : UInt32) : Limiter := ⟨0, fun before => before < max 1 perSecond.toNat⟩

/-- Asks for one command. -/
def check (limiter : Limiter) : Limiter × Bool :=
  ({ limiter with asked := limiter.asked + 1 }, limiter.allows limiter.asked)

/-- Asks for a number of commands, one after the other. -/
def checks : Nat → Limiter → List Bool
  | 0, _ => []
  | n + 1, limiter =>
      let (limiter, allowed) := limiter.check
      allowed :: checks n limiter

end Limiter

end FleetConsole.Http
