import FleetConsole.Json.Document

/-!
# Values of a document

A value is a document whose strings are all text and whose numbers are all in range.  Objects keep
the order of their members and may repeat a key.
-/

namespace FleetConsole

inductive Json
  | null
  | boolean (b : Bool)
  | number (n : Json.Number)
  | string (s : String)
  | list (elements : List Json)
  | object (members : List (String × Json))

namespace Json

def natural (n : Nat) : Json := .number (.integer n)

def real (x : Float) : Json := .number (.real x)

/-! ## From documents -/

mutual

/-- The value of a document that is complete. -/
def ofDocument? : Document → Option Json
  | .null => some null
  | .boolean b => some (boolean b)
  | .number n => n.value?.map number
  | .string q => q.text.toOption.map string
  | .list elements flaw => if flaw.isSome then none else (ofElements? elements).map list
  | .object members flaw => if flaw.isSome then none else (ofMembers? members).map object
  | .broken _ => none

def ofElements? : List Document → Option (List Json)
  | [] => some []
  | d :: rest => do
      let value ← ofDocument? d
      let values ← ofElements? rest
      some (value :: values)

def ofMembers? : List (Quotation × Document) → Option (List (String × Json))
  | [] => some []
  | (key, d) :: rest => do
      let name ← key.text.toOption
      let value ← ofDocument? d
      let values ← ofMembers? rest
      some ((name, value) :: values)

end

mutual

/-- How many containers are nested in one another. -/
def depth : Json → Nat
  | list elements => 1 + depthOfElements elements
  | object members => 1 + depthOfMembers members
  | _ => 0

def depthOfElements : List Json → Nat
  | [] => 0
  | value :: rest => max (depth value) (depthOfElements rest)

def depthOfMembers : List (String × Json) → Nat
  | [] => 0
  | (_, value) :: rest => max (depth value) (depthOfMembers rest)

end

/-- The value at the beginning of a text. -/
def ofPrefix? (text : String) : Option Json := ofDocument? (Document.read text.toList).1

/-- The value that is the whole of a text. -/
def ofText? (text : String) : Option Json :=
  let (document, rest) := Document.read text.toList
  if rest.isEmpty then ofDocument? document else none

/-! ## Parts -/

/-- The first member of an object with a key. -/
def field? (key : String) : Json → Option Json
  | object members => (members.find? fun member => member.1 = key).map (·.2)
  | _ => none

/-! ## Text -/

/-- A character inside a string. -/
def escapedChar (c : Char) : String :=
  if c = '"' then "\\\""
  else if c = '\\' then "\\\\"
  else if c = '\n' then "\\n"
  else if c = '\r' then "\\r"
  else if c = '\t' then "\\t"
  else if c = '\x08' then "\\b"
  else if c = '\x0c' then "\\f"
  else if c.toNat < 0x20 then
    let ds := Text.hexDigits c.toNat
    "\\u" ++ String.ofList (List.replicate (4 - ds.length) '0') ++ ds
  else c.toString

def stringText (s : String) : String :=
  "\"" ++ String.join (s.toList.map escapedChar) ++ "\""

/-- A number; what is no finite double has no numeral and is written as null. -/
def numberText (n : Number) : String :=
  match n with
  | .integer _ => n.text
  | .real x => if x.isFinite then n.text else "null"

mutual

/-- The text of a value, without white space. -/
def text : Json → String
  | null => "null"
  | boolean b => if b then "true" else "false"
  | number n => numberText n
  | string s => stringText s
  | list elements => "[" ++ ",".intercalate (textOfElements elements) ++ "]"
  | object members => "\x7b" ++ ",".intercalate (textOfMembers members) ++ "\x7d"

def textOfElements : List Json → List String
  | [] => []
  | value :: rest => text value :: textOfElements rest

def textOfMembers : List (String × Json) → List String
  | [] => []
  | (key, value) :: rest => (stringText key ++ ":" ++ text value) :: textOfMembers rest

end

end Json

end FleetConsole
