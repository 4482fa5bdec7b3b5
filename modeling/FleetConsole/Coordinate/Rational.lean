import FleetConsole.Coordinate

/-!
# Rational coordinates

The exact reading of the arithmetic of the scene: nothing is rounded but where a whole number is
asked for.
-/

namespace FleetConsole

instance : Coordinate Rat where
  portion n := 1 / (n.toNat : Rat)
  round x := ((x + 1 / 2).floor : Rat)
  ground y := if 0 < y then y else 0
  displaced dx dy dz := (1 / 1000000000000000000 : Rat) < dx * dx + dy * dy + dz * dz

end FleetConsole
