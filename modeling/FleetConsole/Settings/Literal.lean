import FleetConsole.Decimal.Binary
import FleetConsole.Text.Digits

/-!
# Literals of settings

How numbers and truth values are spelled in the environment.  A double is the nearest one to the
decimal that is spelled, and infinite if that is too large.
-/

namespace FleetConsole.Literal

open Text (digit? digitsValue leadingDigits)

/-- A row of one or more digits and nothing else. -/
def digits? (text : List Char) : Option (List (Fin 10)) :=
  match leadingDigits text with
  | (d :: ds, []) => some (d :: ds)
  | _ => none

/-- A whole number below a bound, with a plus sign or without. -/
def natural? (bound : Nat) (text : List Char) : Option Nat :=
  let unsigned :=
    match text with
    | '+' :: rest => rest
    | _ => text
  (digits? unsigned).bind fun ds =>
    let value := digitsValue ds
    if value < bound then some value else none

def word? (text : List Char) : Option UInt32 := (natural? UInt32.size text).map Nat.toUInt32

def boolean? (text : List Char) : Option Bool :=
  if text = "true".toList then some true
  else if text = "false".toList then some false
  else none

/-! ## Doubles -/

/-- A sign before a text: whether it is a minus, and the text after it. -/
def sign : List Char → Bool × List Char
  | '-' :: rest => (true, rest)
  | '+' :: rest => (false, rest)
  | text => (false, text)

/-- The exponent that follows the digits, which may be missing. -/
def exponent? : List Char → Option Int
  | [] => some 0
  | c :: rest =>
      if c = 'e' ∨ c = 'E' then
        let (negative, rest) := sign rest
        (digits? rest).map fun ds => if negative then -(digitsValue ds : Int) else digitsValue ds
      else none

/-- Digits with or without a point, at least one of them, and perhaps an exponent. -/
def decimal? (text : List Char) : Option Float :=
  let (whole, rest) := leadingDigits text
  let (fraction, rest) :=
    match rest with
    | '.' :: rest => leadingDigits rest
    | _ => ([], rest)
  if (whole ++ fraction).isEmpty then none
  else
    (exponent? rest).map fun e =>
      Decimal.nearestDecimal (digitsValue (whole ++ fraction)) (e - fraction.length)

/-- A double: a decimal, infinity or the one that is no number, with a sign or without. -/
def float? (text : List Char) : Option Float :=
  let (negative, size) := sign text
  let word := String.ofList (size.map Char.toLower)
  let value :=
    if word = "inf" ∨ word = "infinity" then some (1.0 / 0.0)
    else if word = "nan" then some (0.0 / 0.0)
    else decimal? size
  value.map fun x => if negative then -x else x

end FleetConsole.Literal
