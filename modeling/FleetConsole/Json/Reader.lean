import FleetConsole.Json.Document

/-!
# Readers of documents

A reader takes from a document the value that it wants, or reports the first problem in the order
of the text.  A scalar is read in full before its type is held against it; of a list or an object
only the opening bracket is.

A record is a document with named fields.  As an object it may have its fields in any order, each
at most once, among members that nobody knows, which are skipped.  As a list it has them in the
order in which they are declared.
-/

namespace FleetConsole.Json

abbrev Reader (β : Type) := Document → Except Problem β

namespace Reader

/-- What a document is, for a reader that wants something else. -/
def found : Reader Found
  | .null => .ok .null
  | .boolean b => .ok (.boolean b)
  | .number n =>
      match n.value? with
      | some value => .ok (.number value)
      | none => .error .numberOutOfRange
  | .string q => q.text.map .text
  | .list _ _ => .ok .list
  | .object _ _ => .ok .object
  | .broken flaw => .error flaw.whenRead

/-- The report that something else was wanted. -/
def mismatch {β : Type} (wanted : String) : Reader β := fun d => do
  .error (.wrongType (← found d) wanted)

/-- Passes over a document, whatever it is. -/
def skip : Reader Unit := fun d =>
  match d.flaw? with
  | none => .ok ()
  | some flaw => .error flaw.whenSkipped

def text : Reader String
  | .string q => q.text
  | d => mismatch "a string" d

def boolean : Reader Bool
  | .boolean b => .ok b
  | d => mismatch "a boolean" d

/-- A number of any kind. -/
def number (wanted : String) : Reader Number
  | .number n =>
      match n.value? with
      | some value => .ok value
      | none => .error .numberOutOfRange
  | d => mismatch wanted d

def float : Reader Float := fun d => (number "f64" d).map Number.toFloat

/-- Nothing, which is written as null. -/
def nothing : Reader Unit
  | .null => .ok ()
  | d => mismatch "unit" d

/-- Null for nothing, or what another reader wants. -/
def optional {β : Type} (read : Reader β) : Reader (Option β)
  | .null => .ok none
  | d => (read d).map some

/-- The end of a container that is read. -/
def close : Option Flaw → Except Problem Unit
  | none => .ok ()
  | some flaw => .error flaw.whenRead

def list {β : Type} (read : Reader β) : Reader (List β)
  | .list elements flaw => do
      let values ← elements.mapM read
      close flaw
      .ok values
  | d => mismatch "a sequence" d

/-! ## Records -/

/-- How the fields of a record are spelled and read.  `put` reads the value of a field into a record
part way through. -/
structure Shape (κ σ : Type) where
  wanted : String
  fields : List κ
  name : κ → String
  put : κ → σ → Reader σ

namespace Shape

variable {κ σ : Type} [DecidableEq κ]

/-- The field of a name. -/
def field? (shape : Shape κ σ) (name : String) : Option κ :=
  shape.fields.find? fun k => shape.name k = name

/-- Reads the members of an object, of which the fields in `seen` have come before. -/
def putMembers (shape : Shape κ σ) :
    List κ → σ → List (Quotation × Document) → Except Problem σ
  | _, record, [] => .ok record
  | seen, record, (key, d) :: rest => do
      let name ← key.text
      match shape.field? name with
      | none =>
          skip d
          putMembers shape seen record rest
      | some k =>
          if k ∈ seen then .error (.duplicateField name)
          else
            let record ← shape.put k record d
            putMembers shape (k :: seen) record rest

/-- What follows the last field of a record that is written as a list. -/
def afterFields : Option Flaw → Except Problem Unit
  | none => .ok ()
  | some .bracketAfterComma => .error .trailingComma
  | some (.endOfText .list) => .error (.endOfText .list)
  | some _ => .error .trailingCharacters

/-- Reads the elements of a list as the fields that are still to come. -/
def putElements (shape : Shape κ σ) (flaw : Option Flaw) :
    List κ → σ → List Document → Except Problem σ
  | [], record, [] => (afterFields flaw).map fun _ => record
  | [], _, _ :: _ => .error .trailingCharacters
  | _ :: _, record, [] => (close flaw).map fun _ => record
  | k :: fields, record, d :: rest => do
      let record ← shape.put k record d
      putElements shape flaw fields record rest

/-- Reads a record.  The number of elements tells a list from an object. -/
def read (shape : Shape κ σ) (start : σ) : Reader (σ × Option Nat)
  | .object members flaw => do
      let record ← shape.putMembers [] start members
      close flaw
      .ok (record, none)
  | .list elements flaw => do
      let record ← shape.putElements flaw shape.fields start elements
      .ok (record, some elements.length)
  | d => mismatch shape.wanted d

end Shape

end Reader

/-- The document that is the whole of a text, read; only white space may follow it. -/
def readText {β : Type} (read : Reader β) (text : List Char) : Except Problem β := do
  let (document, rest) := Document.read text
  let value ← read document
  if rest.isEmpty then .ok value else .error .trailingCharacters

end FleetConsole.Json
