import FleetConsole.Json.Lexeme

/-!
# Documents

A document is what a text spells, as far as it spells one: a text that goes wrong still has a
document up to its first flaw, so that a reader can find out which problem comes first.  A list or
an object that is not complete, or holds a value that is not, carries that flaw.

The reader of lexemes is a machine with a stack of the containers that are part way through.  One
lexeme is one `step`, whatever the nesting; `Document.read` gives the document and the lexemes
after it.
-/

namespace FleetConsole.Json

inductive Document
  | null
  | boolean (b : Bool)
  | number (n : Numeral)
  | string (q : Quotation)
  | list (elements : List Document) (flaw : Option Flaw)
  | object (members : List (Quotation × Document)) (flaw : Option Flaw)
  /-- nothing that could be read -/
  | broken (flaw : Flaw)

namespace Document

/-- The flaw of a document that is not complete. -/
def flaw? : Document → Option Flaw
  | null | boolean _ | number _ => none
  | string q => q.flaw
  | list _ flaw | object _ flaw => flaw
  | broken flaw => some flaw

/-- A container part way through, with what it holds so far in reverse. -/
inductive Frame
  | list (done : List Document)
  /-- an object whose last member has its key but no value yet -/
  | member (done : List (Quotation × Document)) (key : Quotation)

/-- What is due next, within the containers that are part way through. -/
inductive Due
  | value (stack : List Frame)
  | firstElement (stack : List Frame)
  | nextElement (done : List Document) (stack : List Frame)
  | afterElement (done : List Document) (stack : List Frame)
  | firstKey (stack : List Frame)
  | nextKey (done : List (Quotation × Document)) (stack : List Frame)
  | colon (done : List (Quotation × Document)) (key : Quotation) (stack : List Frame)
  | afterMember (done : List (Quotation × Document)) (stack : List Frame)
  /-- nothing: the document is complete, or goes no further -/
  | nothing (document : Document)

/-- A document put into the containers around it when the reading goes no further. -/
def enclose (flaw : Flaw) : List Frame → Document → Document
  | [], d => d
  | .list done :: stack, d => enclose flaw stack (list (d :: done).reverse (some flaw))
  | .member done key :: stack, d =>
      enclose flaw stack (object ((key, d) :: done).reverse (some flaw))

/-- What is due after a complete document. -/
def settle (d : Document) : List Frame → Due
  | [] => .nothing d
  | .list done :: stack => .afterElement (d :: done) stack
  | .member done key :: stack => .afterMember ((key, d) :: done) stack

/-- The reading stops at a value that has a flaw. -/
def stop (d : Document) (flaw : Flaw) (stack : List Frame) : Due :=
  .nothing (enclose flaw stack d)

/-- The reading stops inside a list, between its elements. -/
def stopList (done : List Document) (flaw : Flaw) (stack : List Frame) : Due :=
  stop (list done.reverse (some flaw)) flaw stack

/-- The reading stops inside an object, between its members. -/
def stopObject (done : List (Quotation × Document)) (flaw : Flaw) (stack : List Frame) : Due :=
  stop (object done.reverse (some flaw)) flaw stack

namespace Due

/-- A lexeme where a value is due. -/
def atValue (stack : List Frame) : Lexeme → Due
  | .null => settle null stack
  | .boolean b => settle (boolean b) stack
  | .number n => settle (number n) stack
  | .string q =>
      match q.flaw with
      | none => settle (string q) stack
      | some flaw => stop (string q) flaw stack
  | .openBracket => .firstElement stack
  | .openBrace => .firstKey stack
  | .broken flaw => stop (broken flaw) flaw stack
  | _ => stop (broken .expectedValue) .expectedValue stack

/-- A lexeme where a key is due. -/
def atKey (done : List (Quotation × Document)) (stack : List Frame) : Lexeme → Due
  | .string q =>
      match q.flaw with
      | none => .colon done q stack
      | some flaw => stop (broken flaw) flaw (.member done q :: stack)
  | _ => stopObject done .keyNotString stack

/-- One lexeme. -/
def step : Due → Lexeme → Due
  | value stack, l => atValue stack l
  | firstElement stack, .closeBracket => settle (list [] none) stack
  | firstElement stack, l => atValue (.list [] :: stack) l
  | nextElement done stack, .closeBracket => stopList done .bracketAfterComma stack
  | nextElement done stack, l => atValue (.list done :: stack) l
  | afterElement done stack, .comma => nextElement done stack
  | afterElement done stack, .closeBracket => settle (list done.reverse none) stack
  | afterElement done stack, _ => stopList done .expectedCommaOrBracket stack
  | firstKey stack, .closeBrace => settle (object [] none) stack
  | firstKey stack, l => atKey [] stack l
  | nextKey done stack, .closeBrace => stopObject done .braceAfterComma stack
  | nextKey done stack, l => atKey done stack l
  | colon done key stack, .colon => value (.member done key :: stack)
  | colon done key stack, _ =>
      stop (broken .expectedColon) .expectedColon (.member done key :: stack)
  | afterMember done stack, .comma => nextKey done stack
  | afterMember done stack, .closeBrace => settle (object done.reverse none) stack
  | afterMember done stack, _ => stopObject done .expectedCommaOrBrace stack
  | nothing d, _ => nothing d

/-- The document of a text that ends here. -/
def finish : Due → Document
  | value stack => enclose (.endOfText .value) stack (broken (.endOfText .value))
  | firstElement stack => enclose (.endOfText .list) stack (list [] (some (.endOfText .list)))
  | nextElement done stack =>
      enclose (.endOfText .value) stack (list done.reverse (some (.endOfText .value)))
  | afterElement done stack =>
      enclose (.endOfText .list) stack (list done.reverse (some (.endOfText .list)))
  | firstKey stack => enclose (.endOfText .object) stack (object [] (some (.endOfText .object)))
  | nextKey done stack =>
      enclose .endAfterComma stack (object done.reverse (some .endAfterComma))
  | colon done key stack =>
      enclose (.endOfText .object) (.member done key :: stack) (broken (.endOfText .object))
  | afterMember done stack =>
      enclose (.endOfText .object) stack (object done.reverse (some (.endOfText .object)))
  | nothing d => d

/-- The document that lexemes spell from here on, and the lexemes after it. -/
def read : Due → List Lexeme → Document × List Lexeme
  | nothing d, ls => (d, ls)
  | due, [] => (due.finish, [])
  | due, l :: ls => read (due.step l) ls

end Due

/-- The document at the beginning of some lexemes, and the lexemes after it. -/
def ofLexemes (ls : List Lexeme) : Document × List Lexeme := (Due.value []).read ls

/-- The document at the beginning of a text, and the lexemes after it. -/
def read (text : List Char) : Document × List Lexeme := ofLexemes (lexemes text)

end Document

end FleetConsole.Json
