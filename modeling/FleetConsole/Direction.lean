import FleetConsole.Position
import FleetConsole.Json.Reader
import FleetConsole.Json.Value

/-!
# Directions

The six directions of an operator command.  One step in a direction is a move along one axis.

A direction is spelled as its name, or as an object that gives null to its name.
-/

namespace FleetConsole

inductive Direction
  | up
  | down
  | xPlus
  | xMinus
  | zPlus
  | zMinus
deriving DecidableEq

namespace Direction

def all : List Direction := [up, down, xPlus, xMinus, zPlus, zMinus]

def name : Direction → String
  | up => "up"
  | down => "down"
  | xPlus => "x_plus"
  | xMinus => "x_minus"
  | zPlus => "z_plus"
  | zMinus => "z_minus"

def ofName? (name : String) : Option Direction := all.find? fun d => d.name = name

/-- The move of one step. -/
def move (step : Float) : Direction → Position Float
  | up => ⟨0.0, step, 0.0⟩
  | down => ⟨0.0, -step, 0.0⟩
  | xPlus => ⟨step, 0.0, 0.0⟩
  | xMinus => ⟨-step, 0.0, 0.0⟩
  | zPlus => ⟨0.0, 0.0, step⟩
  | zMinus => ⟨0.0, 0.0, -step⟩

/-- A direction in a value. -/
def ofJson? : Json → Option Direction
  | .string name => ofName? name
  | .object [(name, .null)] => ofName? name
  | _ => none

/-! ## Reading a text -/

open Json

/-- A string where the name of a direction is due. -/
def readName : Reader Direction := fun d => do
  let name ←
    match d with
    | .string q => q.text
    | d => Reader.mismatch "variant identifier" d
  match ofName? name with
  | some direction => .ok direction
  | none => .error (.unknownName name (all.map Direction.name))

/-- What may follow the direction. -/
def readEnd (direction : Direction) : List Lexeme → Except Problem Direction
  | [] => .ok direction
  | _ => .error .trailingCharacters

/-- The object that gives null to the name, after its brace. -/
def readTagged (ls : List Lexeme) : Except Problem Direction := do
  let (key, ls) := Document.ofLexemes ls
  let direction ← readName key
  match ls with
  | [] => .error (.endOfText .object)
  | .colon :: ls =>
      let (content, ls) := Document.ofLexemes ls
      Reader.nothing content
      match ls with
      | [] => .error (.endOfText .object)
      | .closeBrace :: ls => readEnd direction ls
      | _ => .error .expectedValue
  | _ => .error .expectedColon

/-- A direction that is the whole of a text. -/
def read (text : List Char) : Except Problem Direction :=
  match lexemes text with
  | [] => .error (.endOfText .value)
  | .string q :: ls => do readEnd (← readName (.string q)) ls
  | .openBrace :: ls => readTagged ls
  | _ => .error .expectedValue

end Direction

end FleetConsole
