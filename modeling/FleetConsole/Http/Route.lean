/-!
# Routes

The paths of the service, each with one method.  A path is matched exactly.
-/

namespace FleetConsole.Http

inductive Route
  | health
  | feedSocket
  | viewSocket
  | state
  | move
  | goHome
  | commit
deriving DecidableEq

namespace Route

def path : Route → String
  | health => "/health"
  | feedSocket => "/ws/feed"
  | viewSocket => "/ws/view"
  | state => "/api/state"
  | move => "/api/commands/move"
  | goHome => "/api/commands/return"
  | commit => "/api/simulation/commit"

def all : List Route := [health, feedSocket, viewSocket, state, move, goHome, commit]

def ofPath? (path : String) : Option Route := all.find? fun route => route.path = path

/-- Whether the route changes something, and so has the method POST and not GET. -/
def isCommand : Route → Bool
  | move | goHome | commit => true
  | _ => false

/-- The methods of a route. -/
def allowed (route : Route) : String := if route.isCommand then "POST" else "GET,HEAD"

/-- Whether a route has a method. -/
def hasMethod (route : Route) (method : String) : Bool :=
  if route.isCommand then method = "POST" else method = "GET" || method = "HEAD"

end Route

end FleetConsole.Http
