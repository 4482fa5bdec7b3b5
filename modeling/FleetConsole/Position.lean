import FleetConsole.Coordinate

/-!
# Positions

A position is a point of the scene or a move between two of them.  A rendered position is where a
drone is drawn: the vertical offset is added to it once, by `Rendered.ofRaw`, and taken away once,
by `Rendered.toRaw`, which also rounds to whole units.
-/

namespace FleetConsole

structure Position (α : Type) where
  x : α
  y : α
  z : α
deriving DecidableEq

/-- A position with the vertical offset of the scene. -/
structure Rendered (α : Type) where
  position : Position α
deriving DecidableEq

variable {α : Type} [Coordinate α]

namespace Position

def add (p move : Position α) : Position α := ⟨p.x + move.x, p.y + move.y, p.z + move.z⟩

def scale (p : Position α) (factor : α) : Position α := ⟨p.x * factor, p.y * factor, p.z * factor⟩

/-- The position on whole units next to a position. -/
def round (p : Position α) : Position α :=
  ⟨Coordinate.round p.x, Coordinate.round p.y, Coordinate.round p.z⟩

/-- A position that is not below the ground. -/
def ground (p : Position α) : Position α := { p with y := Coordinate.ground p.y }

/-- Whether two positions count as different places. -/
def apart (p q : Position α) : Bool := Coordinate.displaced (p.x - q.x) (p.y - q.y) (p.z - q.z)

def distance (p q : Position Float) : Float := length (p.x - q.x) (p.y - q.y) (p.z - q.z)

end Position

namespace Rendered

def ofRaw (raw : Position α) (yOffset : α) : Rendered α := ⟨{ raw with y := raw.y + yOffset }⟩

def toRaw (r : Rendered α) (yOffset : α) : Position α :=
  { r.position with y := r.position.y - yOffset }.round

def shift (r : Rendered α) (move : Position α) : Rendered α := ⟨r.position.add move⟩

end Rendered

end FleetConsole
