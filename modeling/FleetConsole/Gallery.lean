import FleetConsole.Publisher

/-!
# The gallery of views

Views look at what the session publishes.  The latest snapshot is there for everyone to read, and
every publication is sent to the views that have subscribed.  A view that does not look for a long
time misses the oldest publications; it is told how many.

Publishing is two steps, `store` and then `send`, and so is the beginning of a view, `subscribe` and
then reading `latest`: whatever is stored after a view has read was sent after it had subscribed.
-/

namespace FleetConsole

/-- What waits for a view. -/
structure View where
  id : Nat
  /-- the publications that it has not looked at, the oldest first -/
  backlog : List (Publication Float)
  /-- how many were dropped before the first of them -/
  missed : Nat

structure Gallery where
  latest : Snapshot Float
  capacity : Nat
  views : List View

namespace View

/-- One more publication; the oldest goes if there is no room. -/
def push (capacity : Nat) (publication : Publication Float) (view : View) : View :=
  let backlog := view.backlog ++ [publication]
  { view with
    backlog := backlog.drop (backlog.length - capacity)
    missed := view.missed + (backlog.length - capacity) }

end View

namespace Gallery

/-- The publications that wait for one view at most. -/
def viewCapacity : Nat := 64

def opened (latest : Snapshot Float) : Gallery := ⟨latest, viewCapacity, []⟩

/-- The first step of publishing. -/
def store (snapshot : Snapshot Float) (gallery : Gallery) : Gallery :=
  { gallery with latest := snapshot }

/-- The second step of publishing. -/
def send (publication : Publication Float) (gallery : Gallery) : Gallery :=
  { gallery with views := gallery.views.map (View.push gallery.capacity publication) }

/-- The first step of a view; the second is to read `latest`. -/
def subscribe (id : Nat) (gallery : Gallery) : Gallery :=
  { gallery with views := gallery.views ++ [⟨id, [], 0⟩] }

def unsubscribe (id : Nat) (gallery : Gallery) : Gallery :=
  { gallery with views := gallery.views.filter (·.id ≠ id) }

/-- Both steps of publishing. -/
def publish (publication : Publication Float) (gallery : Gallery) : Gallery :=
  (gallery.store publication.snapshot).send publication

/-- All views have looked. -/
def cleared (gallery : Gallery) : Gallery :=
  { gallery with views := gallery.views.map fun view => { view with backlog := [], missed := 0 } }

end Gallery

end FleetConsole
