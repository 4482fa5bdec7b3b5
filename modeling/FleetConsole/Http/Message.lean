import FleetConsole.Json.Value

/-!
# Requests and responses

What the service needs of a request, and what it answers.  Header names are compared without regard
to case; the first header of a name counts.
-/

namespace FleetConsole.Http

structure Request where
  method : String
  /-- the path and what may follow it, a query or a fragment -/
  target : String
  headers : List (String × String)
  body : String
deriving DecidableEq

inductive Body
  | empty
  | text (s : String)
  | json (value : Json)

structure Response where
  status : Nat
  headers : List (String × String)
  body : Body

/-- Whether a header can be read as text: visible characters of ASCII, spaces and tabs. -/
def isVisible (s : String) : Bool :=
  s.toList.all fun c => c = '\t' || (0x20 ≤ c.toNat && c.toNat < 0x7F)

namespace Request

def header? (name : String) (request : Request) : Option String :=
  (request.headers.find? fun header =>
    header.1.toList.map Char.toLower = name.toList).map (·.2)

/-- The path without query and fragment. -/
def path (request : Request) : String :=
  String.ofList (request.target.toList.takeWhile fun c => c ≠ '?' && c ≠ '#')

end Request

namespace Response

def empty (status : Nat) : Response := ⟨status, [], .empty⟩

def text (status : Nat) (s : String) : Response :=
  ⟨status, [("content-type", "text/plain; charset=utf-8")], .text s⟩

def json (status : Nat) (value : Json) : Response :=
  ⟨status, [("content-type", "application/json")], .json value⟩

def withHeader (name value : String) (response : Response) : Response :=
  { response with headers := response.headers ++ [(name, value)] }

/-- The answer to a request for the head alone. -/
def withoutBody (response : Response) : Response := { response with body := .empty }

/-- A method that the path does not have. -/
def wrongMethod (allowed : String) : Response := (empty 405).withHeader "allow" allowed

end Response

end FleetConsole.Http
