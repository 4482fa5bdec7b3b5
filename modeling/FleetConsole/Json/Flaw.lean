import FleetConsole.Text.Quoted
import FleetConsole.Json.Number

/-!
# What can be wrong with a document

A flaw is a fault in the spelling of a document, found without knowing what the document is for.  A
problem is what a reader reports: a flaw, or a value that is not what the reader wants.  Values that
nobody wants are skipped, and four flaws are reported otherwise there.
-/

namespace FleetConsole.Json

/-- Where a text ends too early. -/
inductive Place
  | string
  | object
  | list
  | value
deriving DecidableEq

/-- A fault in the spelling of a document. -/
inductive Flaw
  | endOfText (inside : Place)
  /-- the text ends after a comma between members -/
  | endAfterComma
  /-- the text ends inside a number -/
  | endInNumber
  /-- a closing brace after a comma -/
  | braceAfterComma
  /-- a closing bracket after a comma -/
  | bracketAfterComma
  | expectedValue
  | expectedWord
  | invalidNumber
  | expectedColon
  | expectedCommaOrBrace
  | expectedCommaOrBracket
  | keyNotString
  | controlCharacter
  /-- a backslash before a letter that means nothing -/
  | unknownEscape
  /-- a character that is no digit among the four of an escape by number -/
  | escapeDigits
deriving DecidableEq

/-- What was met in place of the value that was wanted. -/
inductive Found
  | null
  | boolean (b : Bool)
  | number (n : Number)
  | text (s : String)
  | list
  | object

/-- What a reader reports, apart from the place in the document where it met it. -/
inductive Problem
  | endOfText (inside : Place)
  | expectedValue
  | expectedWord
  | invalidNumber
  | numberOutOfRange
  | expectedColon
  | expectedCommaOrBrace
  | expectedCommaOrBracket
  | trailingComma
  | keyNotString
  | controlCharacter
  | invalidEscape
  | loneSurrogate
  | endOfEscape
  | trailingCharacters
  | wrongType (found : Found) (wanted : String)
  | duplicateField (name : String)
  | missingField (name : String)
  | wrongLength (length : Nat) (wanted : String)
  | unknownName (name : String) (known : List String)

/-- A flaw met where the value is read. -/
def Flaw.whenRead : Flaw → Problem
  | endOfText inside => .endOfText inside
  | endAfterComma | endInNumber => .endOfText .value
  | braceAfterComma | bracketAfterComma => .trailingComma
  | expectedValue => .expectedValue
  | expectedWord => .expectedWord
  | invalidNumber => .invalidNumber
  | expectedColon => .expectedColon
  | expectedCommaOrBrace => .expectedCommaOrBrace
  | expectedCommaOrBracket => .expectedCommaOrBracket
  | keyNotString => .keyNotString
  | controlCharacter => .controlCharacter
  | unknownEscape | escapeDigits => .invalidEscape

/-- A flaw met where the value is skipped: nothing there is known to be a list of members or a
number before it is complete. -/
def Flaw.whenSkipped : Flaw → Problem
  | endAfterComma => .endOfText .object
  | endInNumber => .invalidNumber
  | braceAfterComma => .keyNotString
  | bracketAfterComma => .expectedValue
  | flaw => flaw.whenRead

def Place.message : Place → String
  | string => "EOF while parsing a string"
  | object => "EOF while parsing an object"
  | list => "EOF while parsing a list"
  | value => "EOF while parsing a value"

def Found.message : Found → String
  | null => "null"
  | boolean b => s!"boolean `{b}`"
  | number (.integer n) => s!"integer `{n}`"
  | number (.real x) => "floating point `" ++ realStyle.text x ++ "`"
  | text s => "string " ++ Text.quoted s
  | list => "sequence"
  | object => "map"

/-- What is wrong, in words.  A report goes on with the place, ` at line 1 column 2`, which is left out
here. -/
def Problem.message : Problem → String
  | endOfText inside => inside.message
  | expectedValue => "expected value"
  | expectedWord => "expected ident"
  | invalidNumber => "invalid number"
  | numberOutOfRange => "number out of range"
  | expectedColon => "expected `:`"
  | expectedCommaOrBrace => "expected `,` or `\x7d`"
  | expectedCommaOrBracket => "expected `,` or `]`"
  | trailingComma => "trailing comma"
  | keyNotString => "key must be a string"
  | controlCharacter => "control character (\\u0000-\\u001F) found while parsing a string"
  | invalidEscape => "invalid escape"
  | loneSurrogate => "lone leading surrogate in hex escape"
  | endOfEscape => "unexpected end of hex escape"
  | trailingCharacters => "trailing characters"
  | wrongType found wanted => "invalid type: " ++ found.message ++ ", expected " ++ wanted
  | duplicateField name => s!"duplicate field `{name}`"
  | missingField name => s!"missing field `{name}`"
  | wrongLength length wanted => s!"invalid length {length}, expected {wanted}"
  | unknownName name known =>
      s!"unknown variant `{name}`, expected one of "
        ++ ", ".intercalate (known.map fun k => "`" ++ k ++ "`")

end FleetConsole.Json
