import FleetConsole.Direction

/-!
# Move requests

A move is asked for by the name of a direction or by the move itself.  If the direction cannot be
used the move is tried.  A key that is wanted must not be repeated; all others are ignored.
-/

namespace FleetConsole.Http

inductive MoveRequest
  | direction (d : Direction)
  | delta (move : Position Float)

namespace MoveRequest

/-- The value of a key that occurs once. -/
def only? (key : String) (members : List (String × Json)) : Option Json :=
  match members.filter fun member => member.1 = key with
  | [(_, value)] => some value
  | _ => none

def coordinate? : Json → Option Float
  | .number n => some n.toFloat
  | _ => none

/-- A position, as an object or as a list of three numbers. -/
def position? : Json → Option (Position Float)
  | .object members => do
      let x ← (only? "X" members).bind coordinate?
      let y ← (only? "Y" members).bind coordinate?
      let z ← (only? "Z" members).bind coordinate?
      some ⟨x, y, z⟩
  | .list [x, y, z] => do
      some ⟨← coordinate? x, ← coordinate? y, ← coordinate? z⟩
  | _ => none

def ofJson? : Json → Option MoveRequest
  | .object members =>
      match (only? "direction" members).bind Direction.ofJson? with
      | some d => some (direction d)
      | none => ((only? "delta" members).bind position?).map delta
  | _ => none

/-- The move that is asked for. -/
def move (step : Float) : MoveRequest → Position Float
  | direction d => d.move step
  | delta move => move

/-- What a body can be. -/
inductive Reading
  | request (r : MoveRequest)
  /-- no value at the beginning of the body -/
  | unreadable
  /-- a value that asks for no move -/
  | mismatch

/-- The most containers that may be nested in one another. -/
def maxDepth : Nat := 127

/-- Reads a body.  What follows the value is ignored. -/
def ofBody (body : String) : Reading :=
  match (Json.ofPrefix? body).filter fun value => value.depth ≤ maxDepth with
  | none => .unreadable
  | some value =>
      match ofJson? value with
      | some r => .request r
      | none => .mismatch

end MoveRequest

end FleetConsole.Http
