import FleetConsole.Http.Message
import FleetConsole.Text.Lines

/-!
# Origins

A browser tells from which origin a page comes that uses the service.  An origin of the settings is
told back, byte for byte; any other is not.  A browser asks first what is allowed, with the method
OPTIONS.
-/

namespace FleetConsole.Http

/-- Whether a text can be the value of a header. -/
def isHeaderValue (text : List Char) : Bool :=
  text.all fun c => c = '\t' || (0x20 ≤ c.toNat && c.toNat ≠ 0x7F)

/-- The origins of the settings. -/
def allowedOrigins (clientOrigin : String) : List String :=
  (((Text.split ',' clientOrigin.toList).map Text.trim).filter isHeaderValue).map String.ofList

/-- Tells an allowed origin back. -/
def withOrigin (clientOrigin : String) (request : Request) (response : Response) : Response :=
  match request.header? "origin" with
  | some origin =>
      if origin ∈ allowedOrigins clientOrigin then
        response.withHeader "access-control-allow-origin" origin
      else response
  | none => response

/-- The answer to the question what is allowed. -/
def preflight : Response :=
  ((Response.empty 200).withHeader "access-control-allow-methods" "GET,POST,OPTIONS").withHeader
    "access-control-allow-headers" "content-type"

end FleetConsole.Http
