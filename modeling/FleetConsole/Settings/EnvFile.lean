import FleetConsole.Settings
import FleetConsole.Text.Alphanumeric

/-!
# Environment files

A file of lines `NAME=value` adds to the environment what is not set there.

* **Lines.**  A quote goes on over the end of a line; a mark `#` after white space begins a comment.
* **Values.**  Between single quotes everything stands for itself.  Elsewhere a backslash stands
  before a quote, a dollar, a blank, another backslash or an `n`, and a dollar before the name of a
  variable, in braces or not, which is one of the environment or of an earlier line.
* **Faults.**  Reading ends at the first line that makes no sense; what came before it counts.
-/

namespace FleetConsole.EnvFile

open Text (isBlank isAlphanumeric)

/-! ## Lines -/

/-- The lines of a file, each with the line feed that ends it. -/
def fileLines : List Char → List (List Char)
  | [] => []
  | c :: rest =>
      if c = '\n' then [c] :: fileLines rest
      else
        match fileLines rest with
        | [] => [[c]]
        | line :: others => (c :: line) :: others

/-- Where the end of a line can come. -/
inductive LineState
  | complete
  | afterBlank
  | escape
  | strong
  | strongEscape
  | weak
  | weakEscape
deriving DecidableEq

namespace LineState

/-- The state after a character outside of quotes. -/
def begin (c : Char) : LineState :=
  if c = '\\' then escape
  else if c = '"' then weak
  else if c = '\'' then strong
  else complete

def step : LineState → Char → LineState
  | complete, c => if isBlank c ∧ c ≠ '\n' ∧ c ≠ '\r' then afterBlank else begin c
  | afterBlank, c => begin c
  | escape, _ => complete
  | strong, c => if c = '\\' then strongEscape else if c = '\'' then complete else strong
  | strongEscape, _ => strong
  | weak, c => if c = '\\' then weakEscape else if c = '"' then complete else weak
  | weakEscape, _ => weak

/-- Goes over a line: the state after it, or where a comment begins in it. -/
def scan : Nat → LineState → List Char → LineState ⊕ Nat
  | _, state, [] => .inl state
  | place, state, c :: rest =>
      if state = afterBlank ∧ c = '#' then .inr place else scan (place + 1) (state.step c) rest

end LineState

/-- A line without the line feed at its end and a carriage return before it. -/
def withoutEnd (line : List Char) : List Char :=
  match line.reverse with
  | '\n' :: '\r' :: rest => rest.reverse
  | '\n' :: rest => rest.reverse
  | _ => line

/-- Joins the lines of a file where quotes go on, from a state and the text of the lines that belong
together so far; `none` stands for a file that ends in the middle of something. -/
def joined : LineState → List Char → List (List Char) → List (Option (List Char))
  | state, _, [] => if state = .complete then [] else [none]
  | state, before, line :: rest =>
      if ((before ++ line).dropWhile isBlank).head? = some '#' then
        some [] :: joined .complete [] rest
      else
        match state.scan 0 line with
        | .inr place => some (before ++ line.take place) :: joined .complete [] rest
        | .inl .complete => some (withoutEnd (before ++ line)) :: joined .complete [] rest
        | .inl state => joined state (before ++ line) rest

/-! ## Values -/

/-- What a character of a value means. -/
inductive ValueMode
  | plain
  | strong
  | weak
  /-- after a backslash, between double quotes or outside of quotes -/
  | escape (quoted : Bool)
  /-- the name of a variable after a dollar -/
  | name (quoted : Bool) (chars : List Char)
  /-- the name of a variable in braces -/
  | braced (quoted : Bool) (chars : List Char)
  /-- after a value: blanks or a comment -/
  | ended
deriving DecidableEq

/-- The mode outside of escapes and names. -/
def ValueMode.outer (quoted : Bool) : ValueMode := if quoted then .weak else .plain

def escaped? (c : Char) : Option Char :=
  if c = 'n' then some '\n'
  else if c = '\\' ∨ c = '\'' ∨ c = '"' ∨ c = '$' ∨ c = ' ' then some c
  else none

/-- The value that is spelled from a mode on; `output` is what came before, in reverse. -/
def valueFrom (lookup : String → String) :
    ValueMode → List Char → List Char → Option (List Char)
  | .plain, output, [] | .ended, output, [] | .escape false, output, [] => some output.reverse
  | .name false chars, output, [] =>
      some (output.reverse ++ (lookup (String.ofList chars.reverse)).toList)
  | _, _, [] => none
  | .ended, output, c :: rest =>
      if c = ' ' ∨ c = '\t' then valueFrom lookup .ended output rest
      else if c = '#' then some output.reverse
      else none
  | .escape quoted, output, c :: rest =>
      (escaped? c).bind fun d => valueFrom lookup (.outer quoted) (d :: output) rest
  | .strong, output, c :: rest =>
      if c = '\'' then valueFrom lookup .plain output rest
      else valueFrom lookup .strong (c :: output) rest
  | .name quoted chars, output, c :: rest =>
      if isAlphanumeric c then valueFrom lookup (.name quoted (c :: chars)) output rest
      else if c = '{' ∧ chars.isEmpty then valueFrom lookup (.braced quoted []) output rest
      else
        let output := (lookup (String.ofList chars.reverse)).toList.reverse ++ output
        if c = '$' then valueFrom lookup (.name quoted []) output rest
        else valueFrom lookup (.outer quoted) (c :: output) rest
  | .braced quoted chars, output, c :: rest =>
      if c = '}' then
        let output := (lookup (String.ofList chars.reverse)).toList.reverse ++ output
        valueFrom lookup (.outer quoted) output rest
      else valueFrom lookup (.braced quoted (c :: chars)) output rest
  | .weak, output, c :: rest =>
      if c = '$' then valueFrom lookup (.name true []) output rest
      else if c = '"' then valueFrom lookup .plain output rest
      else if c = '\\' then valueFrom lookup (.escape true) output rest
      else valueFrom lookup .weak (c :: output) rest
  | .plain, output, c :: rest =>
      if c = '$' then valueFrom lookup (.name false []) output rest
      else if c = '\'' then valueFrom lookup .strong output rest
      else if c = '"' then valueFrom lookup .weak output rest
      else if c = '\\' then valueFrom lookup (.escape false) output rest
      else if c = ' ' ∨ c = '\t' then valueFrom lookup .ended output rest
      else valueFrom lookup .plain (c :: output) rest

/-! ## Assignments -/

/-- The name at the beginning of a text, and the text after it and the blanks that follow. -/
def name? (text : List Char) : Option (String × List Char) :=
  if text.head?.any fun c => c.isAlpha || c = '_' then
    let name := text.takeWhile fun c => c.isAlphanum || c = '_' || c = '.'
    some (String.ofList name, (text.drop name.length).dropWhile isBlank)
  else none

/-- The name that is assigned to, and the text of the value.  The word `export` may come before. -/
def target? (text : List Char) : Option (String × List Char) := do
  match ← name? text with
  | (name, '=' :: rest) => some (name, rest.dropWhile isBlank)
  | (name, rest) =>
      if name = "export" then
        match ← name? rest with
        | (name, '=' :: rest) => some (name, rest.dropWhile isBlank)
        | _ => none
      else none

/-- What a line says: nothing, or a name and its value. -/
def assignment? (lookup : String → String) (line : List Char) : Option (Option (String × String)) :=
  let text := Text.trim line
  if text.isEmpty || text.head? = some '#' then some none
  else do
    let (name, value) ← target? text
    if value.isEmpty || value.head? = some '#' then some (some (name, ""))
    else
      let value ← valueFrom lookup .plain [] value
      some (some (name, String.ofList value))

/-- The value of a variable that is used in another: of the environment first, else of the last line
that has set it. -/
def lookup (environment : Environment) (assigned : List (String × String)) (name : String) :
    String :=
  ((environment.get? name).or (Environment.get? assigned name)).getD ""

/-- Adds what lines say, up to the first that makes no sense.  `assigned` has what earlier lines
have said, the last first. -/
def addLines (assigned : List (String × String)) :
    Environment → List (Option (List Char)) → Environment
  | environment, some line :: rest =>
      match assignment? (lookup environment assigned) line with
      | some (some (name, value)) =>
          let next :=
            if (environment.get? name).isSome then environment else environment ++ [(name, value)]
          addLines ((name, value) :: assigned) next rest
      | some none => addLines assigned environment rest
      | none => environment
  | environment, _ => environment

/-- The environment with what a file says.  A byte order mark before it is dropped. -/
def load (file : String) (environment : Environment) : Environment :=
  let text :=
    match file.toList with
    | '\uFEFF' :: rest => rest
    | text => text
  addLines [] environment (joined .complete [] (fileLines text))

end FleetConsole.EnvFile
