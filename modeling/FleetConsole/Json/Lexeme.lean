import FleetConsole.Json.Flaw

/-!
# Lexemes of a document

A text is cut into lexemes character by character: a mode remembers what has been begun, `step`
says which lexemes a character completes and in which mode the next one is read, and `finish` what
is left at the end of the text.  After a lexeme that cannot be completed, and after a character that
begins none, nothing more is read: no reader gets past it.

A string keeps its escapes by number as they are.  Whether they make characters is asked only of a
string that somebody reads (`Quotation.text`).
-/

namespace FleetConsole.Json

open Text (digit? hexDigit?)

/-- A piece of a string: a character, or sixteen bits given by number. -/
inductive Piece
  | char (c : Char)
  | unit (bits : Nat)
deriving DecidableEq

/-- A string as far as it is spelled, with the flaw that ends it if it is not closed. -/
structure Quotation where
  pieces : List Piece
  flaw : Option Flaw
deriving DecidableEq

inductive Lexeme
  | openBrace
  | closeBrace
  | openBracket
  | closeBracket
  | comma
  | colon
  | null
  | boolean (b : Bool)
  | number (n : Numeral)
  | string (q : Quotation)
  /-- the beginning of a word or a number that is not one -/
  | broken (flaw : Flaw)
  /-- a character that begins no lexeme -/
  | stray
deriving DecidableEq

/-- What has been begun.  Digits and pieces are kept in reverse. -/
inductive Mode
  | between
  | word (rest : List Char) (result : Lexeme)
  | string (pieces : List Piece)
  | escape (pieces : List Piece)
  /-- an escape by number that still wants some digits -/
  | unit (pieces : List Piece) (wanted : Nat) (bits : Nat)
  /-- such an escape with a character that is no digit; so many bytes of it are still due -/
  | badUnit (pieces : List Piece) (due : Nat)
  | minus
  | zero (negative : Bool)
  | whole (negative : Bool) (ds : List (Fin 10))
  | point (n : Numeral)
  | fraction (n : Numeral) (ds : List (Fin 10))
  | mark (n : Numeral)
  | sign (n : Numeral) (negative : Bool)
  | exponent (n : Numeral) (negative : Bool) (ds : List (Fin 10))
  | halted

/-- White space between lexemes. -/
def isSpace (c : Char) : Bool := c = ' ' || c = '\t' || c = '\n' || c = '\r'

/-- The character that a letter after a backslash stands for. -/
def escaped? : Char → Option Char
  | '"' => some '"'
  | '\\' => some '\\'
  | '/' => some '/'
  | 'b' => some '\x08'
  | 'f' => some '\x0c'
  | 'n' => some '\n'
  | 'r' => some '\r'
  | 't' => some '\t'
  | _ => none

/-- A whole number. -/
def Numeral.ofWhole (negative : Bool) (ds : List (Fin 10)) : Numeral :=
  ⟨negative, ds.reverse, [], none⟩

namespace Mode

/-- A string that its flaw ends. -/
def brokenString (pieces : List Piece) (flaw : Flaw) : List Lexeme × Mode :=
  ([.string ⟨pieces.reverse, some flaw⟩], halted)

def brokenNumber : List Lexeme × Mode := ([.broken .invalidNumber], halted)

/-- A character where no lexeme has been begun. -/
def begin (c : Char) : List Lexeme × Mode :=
  if isSpace c then ([], between)
  else
    match c with
    | '{' => ([.openBrace], between)
    | '}' => ([.closeBrace], between)
    | '[' => ([.openBracket], between)
    | ']' => ([.closeBracket], between)
    | ',' => ([.comma], between)
    | ':' => ([.colon], between)
    | '"' => ([], string [])
    | 'n' => ([], word ['u', 'l', 'l'] .null)
    | 't' => ([], word ['r', 'u', 'e'] (.boolean true))
    | 'f' => ([], word ['a', 'l', 's', 'e'] (.boolean false))
    | '-' => ([], minus)
    | '0' => ([], zero false)
    | _ =>
        match digit? c with
        | some d => ([], whole false [d])
        | none => ([.stray], halted)

/-- A character that ends a number and may begin the next lexeme. -/
def afterNumber (n : Numeral) (c : Char) : List Lexeme × Mode :=
  (.number n :: (begin c).1, (begin c).2)

/-- A character after all digits before the point, or after the fraction's. -/
def afterWhole (n : Numeral) (c : Char) : List Lexeme × Mode :=
  if c = '.' then ([], point n)
  else if c = 'e' ∨ c = 'E' then ([], mark n)
  else afterNumber n c

def afterFraction (n : Numeral) (c : Char) : List Lexeme × Mode :=
  if c = 'e' ∨ c = 'E' then ([], mark n) else afterNumber n c

/-- What a character completes, and the mode after it. -/
def step : Mode → Char → List Lexeme × Mode
  | between, c => begin c
  | word [] result, c => (result :: (begin c).1, (begin c).2)
  | word (expected :: rest) result, c =>
      if c = expected then
        if rest.isEmpty then ([result], between) else ([], word rest result)
      else ([.broken .expectedWord], halted)
  | string pieces, c =>
      if c = '"' then ([.string ⟨pieces.reverse, none⟩], between)
      else if c = '\\' then ([], escape pieces)
      else if c.toNat < 0x20 then brokenString pieces .controlCharacter
      else ([], string (.char c :: pieces))
  | escape pieces, c =>
      if c = 'u' then ([], unit pieces 4 0)
      else
        match escaped? c with
        | some d => ([], string (.char d :: pieces))
        | none => brokenString pieces .unknownEscape
  | unit pieces wanted bits, c =>
      match hexDigit? c with
      | some d =>
          if wanted ≤ 1 then ([], string (.unit (16 * bits + d) :: pieces))
          else ([], unit pieces (wanted - 1) (16 * bits + d))
      | none =>
          if wanted ≤ c.utf8Size then brokenString pieces .escapeDigits
          else ([], badUnit pieces (wanted - c.utf8Size))
  | badUnit pieces due, c =>
      if due ≤ c.utf8Size then brokenString pieces .escapeDigits
      else ([], badUnit pieces (due - c.utf8Size))
  | minus, c =>
      if c = '0' then ([], zero true)
      else
        match digit? c with
        | some d => ([], whole true [d])
        | none => brokenNumber
  | zero negative, c =>
      match digit? c with
      | some _ => brokenNumber
      | none => afterWhole (.ofWhole negative [0]) c
  | whole negative ds, c =>
      match digit? c with
      | some d => ([], whole negative (d :: ds))
      | none => afterWhole (.ofWhole negative ds) c
  | point n, c =>
      match digit? c with
      | some d => ([], fraction n [d])
      | none => brokenNumber
  | fraction n ds, c =>
      match digit? c with
      | some d => ([], fraction n (d :: ds))
      | none => afterFraction { n with fraction := ds.reverse } c
  | mark n, c =>
      if c = '+' then ([], sign n false)
      else if c = '-' then ([], sign n true)
      else
        match digit? c with
        | some d => ([], exponent n false [d])
        | none => brokenNumber
  | sign n negative, c =>
      match digit? c with
      | some d => ([], exponent n negative [d])
      | none => brokenNumber
  | exponent n negative ds, c =>
      match digit? c with
      | some d => ([], exponent n negative (d :: ds))
      | none => afterNumber { n with exponent := some (negative, ds.reverse) } c
  | halted, _ => ([], halted)

/-- What the end of the text completes. -/
def finish : Mode → List Lexeme
  | between | halted => []
  | word [] result => [result]
  | word _ _ => [.broken (.endOfText .value)]
  | string pieces | escape pieces | unit pieces _ _ | badUnit pieces _ =>
      [.string ⟨pieces.reverse, some (.endOfText .string)⟩]
  | minus | point _ | mark _ | sign _ _ => [.broken .endInNumber]
  | zero negative => [.number (.ofWhole negative [0])]
  | whole negative ds => [.number (.ofWhole negative ds)]
  | fraction n ds => [.number { n with fraction := ds.reverse }]
  | exponent n negative ds => [.number { n with exponent := some (negative, ds.reverse) }]

/-- The lexemes of a text read from a mode on. -/
def lexemes : Mode → List Char → List Lexeme
  | mode, [] => mode.finish
  | mode, c :: rest => (mode.step c).1 ++ lexemes (mode.step c).2 rest

end Mode

/-- The lexemes of a text. -/
def lexemes (text : List Char) : List Lexeme := Mode.between.lexemes text

/-! ## The text of a string -/

/-- The first of two units that make one character. -/
def isLeading (bits : Nat) : Bool := 0xD800 ≤ bits && bits ≤ 0xDBFF

/-- The second of two units that make one character. -/
def isTrailing (bits : Nat) : Bool := 0xDC00 ≤ bits && bits ≤ 0xDFFF

/-- The character of two units. -/
def pairChar (leading trailing : Nat) : Char :=
  Char.ofNat (0x10000 + (leading - 0xD800) * 0x400 + (trailing - 0xDC00))

/-- What is reported when no second unit follows the first and the string ends there with a flaw. -/
def afterLeading : Option Flaw → Problem
  | some (.endOfText inside) => .endOfText inside
  | some .escapeDigits => .invalidEscape
  | _ => .endOfEscape

/-- The characters of a string, or the first problem in it. -/
def characters (flaw : Option Flaw) : List Piece → Except Problem (List Char)
  | [] =>
      match flaw with
      | none => .ok []
      | some flaw => .error flaw.whenRead
  | .char c :: rest => (characters flaw rest).map (c :: ·)
  | .unit bits :: rest =>
      if isTrailing bits then .error .loneSurrogate
      else if isLeading bits then
        match rest with
        | .unit second :: rest =>
            if isTrailing second then (characters flaw rest).map (pairChar bits second :: ·)
            else .error .loneSurrogate
        | .char _ :: _ => .error .endOfEscape
        | [] => .error (afterLeading flaw)
      else (characters flaw rest).map (Char.ofNat bits :: ·)

/-- The text of a string, or the first problem in it. -/
def Quotation.text (q : Quotation) : Except Problem String :=
  (characters q.flaw q.pieces).map String.ofList

end FleetConsole.Json
