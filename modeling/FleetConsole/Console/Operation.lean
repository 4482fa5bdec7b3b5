import FleetConsole.Console

/-!
# Histories of a console

Everything that can be done to a console is an operation; a history is a list of them, and `run`
goes through it.
-/

namespace FleetConsole

inductive Operation (α : Type)
  | lines (lines : List (Except Json.Problem (Message α)))
  | startPlan (paths : List (List (Position α)))
  | tick (run : Nat)
  | move (step : Position α)
  | goHome
  | operatorCommit
  | commit

/-- What comes of an operation. -/
inductive Outcome (α : Type)
  | events (events : List (Event α))
  | targets (targets : List (Position α))
  | refused (refusal : Refusal)

namespace Console

variable {α : Type}

/-- The end of an attempt: what is refused leaves the console as it was. -/
def conclude {β : Type} (console : Console α) (outcome : β → Outcome α) :
    Except Refusal (Console α × β) → Console α × Outcome α
  | .ok (next, result) => (next, outcome result)
  | .error refusal => (console, .refused refusal)

variable [Coordinate α]

/-- One operation. -/
def step (console : Console α) : Operation α → Console α × Outcome α
  | .lines lines => (handleLines lines console).map id .events
  | .startPlan paths => conclude console .events (startPlan paths console)
  | .tick run => (tick run console).map id .events
  | .move step => conclude console .targets (move step console)
  | .goHome => conclude console .targets console.goHome
  | .operatorCommit =>
      conclude console (fun outcome => .events [.reconciled outcome]) console.operatorCommit
  | .commit => console.commit.map id .events

/-- A history, with the outcome of every operation. -/
def run (console : Console α) : List (Operation α) → Console α × List (Outcome α)
  | [] => (console, [])
  | operation :: rest =>
      let (next, outcome) := console.step operation
      let (last, outcomes) := run next rest
      (last, outcome :: outcomes)

/-- The state after a history. -/
def after (console : Console α) (history : List (Operation α)) : Console α :=
  (console.run history).1

end Console

end FleetConsole
