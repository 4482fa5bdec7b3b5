/-!
# Coordinates

A coordinate measures scene units along one axis.  The console computes with doubles; whatever holds
of it for reasons of bookkeeping holds for any kind of coordinate, and whatever is exact about it is
said with rational ones (`FleetConsole.Coordinate.Rational`).
-/

namespace FleetConsole

/-- What the console needs of the numbers that measure the scene. -/
class Coordinate (α : Type) extends Add α, Sub α, Mul α where
  /-- one part of a whole that is cut into so many equal parts -/
  portion : UInt32 → α
  /-- the whole number next to a coordinate, the greater one of two -/
  round : α → α
  /-- a height that is not below the ground -/
  ground : α → α
  /-- whether a displacement along the three axes is longer than a billionth of a unit -/
  displaced : α → α → α → Bool

/-! ## Doubles -/

/-- A double without its fraction, its sign dropped.  From 2 ^ 52 on there is none to drop. -/
def wholeSize (x : Float) : Float :=
  if x.abs < 4503599627370496.0 then x.abs.toUInt64.toFloat else x.abs

/-- The greatest whole number that is not above a double. -/
def floorDown (x : Float) : Float :=
  if 0.0 ≤ x then wholeSize x
  else if x < 0.0 then
    if x < -wholeSize x then -wholeSize x - 1.0 else -wholeSize x
  else x

/-- The whole number next to a double that is not negative, the greater one of two. -/
def nearestWhole (x : Float) : Float :=
  if 0.5 ≤ x - wholeSize x then wholeSize x + 1.0 else wholeSize x

/-- The length of a displacement. -/
def length (dx dy dz : Float) : Float := (dx * dx + dy * dy + dz * dz).sqrt

/-- A height below the ground, or one that is no number, becomes the ground. -/
instance : Coordinate Float where
  portion n := 1.0 / n.toFloat
  round x := floorDown (x + 0.5)
  ground y := if 0.0 < y then y else 0.0
  displaced dx dy dz := 1e-9 < length dx dy dz

end FleetConsole
