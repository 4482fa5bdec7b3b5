import FleetConsole.Position
import FleetConsole.Json.Reader
import FleetConsole.Text.Lines

/-!
# Messages of the feed

The feed sends text in lines, and every line that is not blank is a document.  A message is what a
document says: all of its fields are optional and independent of one another.  A line that cannot
be read takes nothing away from the others.

`readLines_append` says that it does not matter how the lines are put into texts.
-/

namespace FleetConsole

structure Message (α : Type) where
  identifier : Option String := none
  drones : Option (List (Position α)) := none
  paths : Option (List (List (Position α))) := none
  droneId : Option Json.Number := none
  location : Option (Position α) := none
  ready : Option Bool := none

namespace Feed

open Json

/-! ## Positions -/

inductive Axis
  | x
  | y
  | z
deriving DecidableEq

def Axis.name : Axis → String
  | x => "X"
  | y => "Y"
  | z => "Z"

/-- The coordinates of a position that have been read. -/
structure Coordinates where
  x : Option Float := none
  y : Option Float := none
  z : Option Float := none

def positionShape : Reader.Shape Axis Coordinates where
  wanted := "struct Position"
  fields := [.x, .y, .z]
  name := Axis.name
  put axis found d := do
    let value ← Reader.float d
    match axis with
    | .x => .ok { found with x := some value }
    | .y => .ok { found with y := some value }
    | .z => .ok { found with z := some value }

/-- The first coordinate that is missing. -/
def Coordinates.missing (found : Coordinates) : Axis :=
  if found.x.isNone then .x else if found.y.isNone then .y else .z

def readPosition : Reader (Position Float) := fun d => do
  let (found, length) ← positionShape.read {} d
  match found, length with
  | ⟨some x, some y, some z⟩, _ => .ok ⟨x, y, z⟩
  | found, none => .error (.missingField found.missing.name)
  | _, some length => .error (.wrongLength length "struct Position with 3 elements")

/-! ## Messages -/

inductive Field
  | identifier
  | drones
  | paths
  | droneId
  | location
  | ready
deriving DecidableEq

def Field.name : Field → String
  | identifier => "Identifier"
  | drones => "Drones"
  | paths => "Paths"
  | droneId => "DroneId"
  | location => "Location"
  | ready => "Ready"

def messageShape : Reader.Shape Field (Message Float) where
  wanted := "struct InboundMessage"
  fields := [.identifier, .drones, .paths, .droneId, .location, .ready]
  name := Field.name
  put field message d :=
    match field with
    | .identifier => do
        .ok { message with identifier := ← Reader.optional Reader.text d }
    | .drones => do
        .ok { message with drones := ← Reader.optional (Reader.list readPosition) d }
    | .paths => do
        .ok { message with paths := ← Reader.optional (Reader.list (Reader.list readPosition)) d }
    | .droneId => do
        .ok { message with droneId := ← Reader.optional (Reader.number "a JSON number") d }
    | .location => do
        .ok { message with location := ← Reader.optional readPosition d }
    | .ready => do
        .ok { message with ready := ← Reader.optional Reader.boolean d }

def readMessage : Reader (Message Float) := fun d => do
  let (message, _) ← messageShape.read {} d
  .ok message

/-! ## Lines -/

/-- The message of one line. -/
def readLine (line : List Char) : Except Problem (Message Float) := readText readMessage line

/-- The messages of the lines of a text, in order. -/
def readLines (text : List Char) : List (Except Problem (Message Float)) :=
  (Text.filledLines text).map readLine

/-- A line feed between two texts keeps their messages apart. -/
theorem readLines_append (first second : List Char) :
    readLines (first ++ '\n' :: second) = readLines first ++ readLines second := by
  simp [readLines, Text.filledLines_append]

end Feed

end FleetConsole
