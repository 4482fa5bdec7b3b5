import FleetConsole.Fleet

/-!
# Events

What happens inside the console, as the views are told.  Whatever changes the state of the console
other than the progress of an animation is told by an event, or forces a snapshot of its own.
-/

namespace FleetConsole

/-- A session of the feed. -/
inductive SessionId
  /-- a session that the caller has numbered -/
  | numbered (n : Nat)
  /-- the session of a socket, by the number of the connection -/
  | socket (n : Nat)
deriving DecidableEq

inductive Event (α : Type)
  | identifierChanged (identifier : String)
  | rosterReplaced (droneCount : Nat)
  | liveUpdated (drone : Nat)
  /-- a plan was accepted; with no steps it is completed at once -/
  | animationStarted (run steps : Nat)
  | animationCompleted (run : Nat)
  /-- the fleet has another size than the plan -/
  | animationCancelled (run : Nat)
  /-- a run was completed while commands were locked -/
  | commitDeferred (run : Nat)
  | reconciled (outcome : Reconciliation)
  | controlsEnabled
  | commandSent (targets : List (Position α))
  | rejected (refusal : Refusal)
  | feedConnected (session : SessionId)
  | feedClosed
deriving DecidableEq

end FleetConsole
