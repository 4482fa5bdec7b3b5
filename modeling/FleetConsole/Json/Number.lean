import FleetConsole.Decimal.Style
import FleetConsole.Text.Digits

/-!
# Numbers of a document

A numeral is a number as it is spelled; a number is its value, an integer or a double.  A numeral
without point and exponent is an integer as long as it fits into 64 bits, with a sign bit if it is
negative; every other numeral is a double.

A double is read from the leading digits that fit into 64 bits: the first digit that no longer fits
and all digits after it on the same side of the point are dropped.  The significand is then scaled
once by a power of ten, which is not always the nearest double.
-/

namespace FleetConsole.Json

open Text (digitsValue)

/-- A number as it is spelled.  There is a point exactly if `fraction` has digits. -/
structure Numeral where
  negative : Bool
  whole : List (Fin 10)
  fraction : List (Fin 10)
  /-- sign and digits of the exponent -/
  exponent : Option (Bool × List (Fin 10))
deriving DecidableEq

/-- The value of a numeral. -/
inductive Number
  | integer (n : Int)
  | real (x : Float)

/-- Appends digits to a significand until one does not fit; the digits left over come second. -/
def takeDigits : Nat → List (Fin 10) → Nat × List (Fin 10)
  | significand, [] => (significand, [])
  | significand, d :: ds =>
      if 10 * significand + d.val < UInt64.size then takeDigits (10 * significand + d.val) ds
      else (significand, d :: ds)

namespace Numeral

/-- The integer that a numeral spells, if it has neither point nor exponent and fits. -/
def integer? (n : Numeral) : Option Int :=
  if n.fraction ≠ [] ∨ n.exponent ≠ none then none
  else
    let size := digitsValue n.whole
    if n.negative then
      if 0 < size ∧ size ≤ UInt64.size / 2 then some (-(size : Int)) else none
    else if size < UInt64.size then some size else none

/-- The digits of a numeral that are kept, and the power of ten that belongs to the last of them
before the exponent is counted. -/
def significand (n : Numeral) : Nat × Int :=
  let (whole, dropped) := takeDigits 0 n.whole
  let (all, unused) := takeDigits whole n.fraction
  (all, (dropped.length : Int) - (n.fraction.length - unused.length : Nat))

/-- Scales a significand by a power of ten: `none` if it grows past the largest double.  Below the
smallest power it is scaled in several steps, of which two already leave nothing. -/
def scale : Nat → Float → Int → Option Float
  | 0, x, _ => some x
  | steps + 1, x, e =>
      if 308 < e then
        if x == 0 then some x else none
      else if 0 ≤ e then
        let scaled := x * Decimal.tenPower e.toNat
        if scaled.isInf then none else some scaled
      else if -308 ≤ e then some (x / Decimal.tenPower (-e).toNat)
      else if x == 0 then some x
      else scale steps (x / Decimal.tenPower 308) (e + 308)

/-- The size of a numeral as a double, `none` if it is out of range. -/
def size? (n : Numeral) : Option Float :=
  let (significand, e) := n.significand
  let start := significand.toUInt64.toFloat
  match n.exponent with
  | none => scale 4 start e
  | some (negative, ds) =>
      let exponent := digitsValue ds
      if exponent < UInt32.size / 2 then
        scale 4 start (if negative then e - exponent else e + exponent)
      else if significand = 0 || negative then some 0
      else none

/-- The value of a numeral, `none` if it is out of range. -/
def value? (n : Numeral) : Option Number :=
  match n.integer? with
  | some value => some (.integer value)
  | none => n.size?.map fun x => .real (if n.negative then -x else x)

end Numeral

/-- Doubles are written out from 0.00001 up to below 10 ^ 16 and with a signed exponent elsewhere;
a tie goes to the even digit. -/
def realStyle : Decimal.Style := ⟨-5, 16, true, .even⟩

namespace Number

/-- The text of a number. -/
def text : Number → String
  | integer n => toString n
  | real x => realStyle.text x

/-- A number as a double; an integer becomes the nearest one. -/
def toFloat : Number → Float
  | integer n =>
      if n < 0 then -(n.natAbs.toUInt64.toFloat) else n.natAbs.toUInt64.toFloat
  | real x => x

/-- The slot that a number names: a whole number of 32 bits, spelled as an integer. -/
def slot? : Number → Option Nat
  | integer n => if 0 ≤ n ∧ n < UInt32.size then some n.toNat else none
  | real _ => none

end Number

end FleetConsole.Json
