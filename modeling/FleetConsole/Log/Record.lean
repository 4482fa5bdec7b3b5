import FleetConsole.Json.Value
import FleetConsole.Log.Filter

/-!
# Log records

A record is a message about a target, with fields.  It is written as a line of text, or as a value
of JSON.
-/

namespace FleetConsole.Log

/-- The value of a field. -/
inductive FieldValue
  | natural (n : Nat)
  | real (x : Float)
  | text (s : String)

structure Record where
  target : String
  message : String
  fields : List (String × FieldValue)

/-- In lines of text a double is written out from 0.0001 up to below 10 ^ 16 and with an exponent
without a plus elsewhere; a tie goes up. -/
def lineStyle : Decimal.Style := ⟨-4, 16, false, .up⟩

namespace FieldValue

def line : FieldValue → String
  | natural n => toString n
  | real x => lineStyle.text x
  | text s => s

def toJson : FieldValue → Json
  | natural n => .natural n
  | real x => .real x
  | text s => .string s

end FieldValue

namespace Record

/-- A record as a line of text. -/
def line (record : Record) : String :=
  "INFO " ++ record.target ++ ": " ++ record.message
    ++ String.join (record.fields.map fun (key, value) => " " ++ key ++ "=" ++ value.line)

/-- A record as a value. -/
def toJson (record : Record) : Json :=
  .object
    [("level", .string "INFO"), ("target", .string record.target),
      ("fields",
        .object
          (("message", .string record.message)
            :: record.fields.map fun (key, value) => (key, value.toJson)))]

/-- The records that a filter lets through. -/
def shown (filter : Filter) (records : List Record) : List Record :=
  records.filter fun record => filter.logs record.target .info

end Record

end FleetConsole.Log
