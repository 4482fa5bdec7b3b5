/-!
# Refusals

The reasons for which the console refuses something.  None of them stops the console.  Each has a
short code for programs and a message for people.
-/

namespace FleetConsole

inductive Refusal
  /-- a drone index that names no slot of the fleet -/
  | outOfRange (index : String) (fleetSize : Nat)
  | invalidPlan (detail : String)
  /-- a line of the feed that cannot be read -/
  | malformedMessage (detail : String)
  | transportClosed
  | commandsLocked
  | notConnected
  | emptyFleet
  | feedBusy
  | consoleStopped
deriving DecidableEq

namespace Refusal

def code : Refusal → String
  | outOfRange .. => "out_of_range"
  | invalidPlan _ => "invalid_plan"
  | malformedMessage _ => "malformed_message"
  | transportClosed => "transport_closed"
  | commandsLocked => "commands_locked"
  | notConnected => "not_connected"
  | emptyFleet => "empty_fleet"
  | feedBusy => "feed_busy"
  | consoleStopped => "console_stopped"

def message : Refusal → String
  | outOfRange index fleetSize =>
      s!"drone index {index} is out of range for a fleet of {fleetSize}"
  | invalidPlan detail => "invalid plan: " ++ detail
  | malformedMessage detail => "malformed message: " ++ detail
  | transportClosed => "feed connection closed"
  | commandsLocked => "commands are locked until the swarm reports ready"
  | notConnected => "no feed connected"
  | emptyFleet => "no roster received yet"
  | feedBusy => "a feed is already connected"
  | consoleStopped => "console session is not running"

end Refusal

end FleetConsole
