import FleetConsole.Decimal.Binary

/-!
# The shortest decimal of a double

Of the decimals that read back as a given double the shortest is written, and of several equally
short ones the nearest.  `shortest` finds it grid by grid: with one digit, with two, and so on, it
looks at the two neighbours of the value on the grid of decimals with so many digits.  If any point
of a grid reads back, one of these two does.
-/

namespace FleetConsole.Decimal

/-- Where a value goes that lies in the middle between two decimals. -/
inductive Tie
  | even
  | up
deriving DecidableEq

/-- The fractions between which a decimal reads back as a given double, and whether the two ends
do so themselves. -/
structure Basin where
  low : Nat × Nat
  high : Nat × Nat
  closed : Bool

/-- The surroundings of a positive double, half way to the next one on either side. -/
def Binary.basin (b : Binary) : Basin :=
  let narrow := b.significand = leadingBit ∧ leastExponent < b.exponent
  { low := if narrow then fractionOf (4 * b.significand - 1) (b.exponent - 2)
      else fractionOf (2 * b.significand - 1) (b.exponent - 1)
    high := fractionOf (2 * b.significand + 1) (b.exponent - 1)
    closed := b.significand % 2 = 0 }

/-- Numerator and denominator of `m * 10 ^ e`. -/
def decimalFraction (m : Nat) (e : Int) : Nat × Nat :=
  if 0 ≤ e then (m * Nat.pow 10 e.toNat, 1) else (m, Nat.pow 10 (-e).toNat)

/-- Whether one fraction is below another. -/
def below (a b : Nat × Nat) : Bool := a.1 * b.2 < b.1 * a.2

/-- Whether `m * 10 ^ e` reads back as the double of these surroundings. -/
def Basin.holds (basin : Basin) (m : Nat) (e : Int) : Bool :=
  let value := decimalFraction m e
  if basin.closed then !below value basin.low && !below basin.high value
  else below basin.low value && below value basin.high

/-- The number of digits before the point of a positive fraction, negative if zeros follow the
point first. -/
def wholeDigits (value : Nat × Nat) : Int :=
  let guess := ((value.1.log2 : Int) - value.2.log2 - 1) * 30103 / 100000
  if below value (decimalFraction 1 guess) then guess
  else if below value (decimalFraction 1 (guess + 1)) then guess + 1
  else if below value (decimalFraction 1 (guess + 2)) then guess + 2
  else guess + 3

/-- Of the two neighbours of a value on the grid of step `10 ^ e`, the one to be written, if one
reads back. -/
def gridPoint? (tie : Tie) (basin : Basin) (value : Nat × Nat) (e : Int) : Option Nat :=
  let step := decimalFraction 1 e
  let numerator := value.1 * step.2
  let denominator := value.2 * step.1
  let lower := numerator / denominator
  let twice := 2 * (numerator % denominator)
  match basin.holds lower e, basin.holds (lower + 1) e with
  | true, false => some lower
  | false, true => some (lower + 1)
  | false, false => none
  | true, true =>
      if twice < denominator then some lower
      else if denominator < twice then some (lower + 1)
      else match tie with
        | .even => some (lower + lower % 2)
        | .up => some (lower + 1)

/-- The first grid, from the coarsest of `grids`, on which the value has a decimal. -/
def firstGridPoint (tie : Tie) (basin : Basin) (value : Nat × Nat) : List Int → Nat × Int
  | [] => (0, 0)
  | e :: finer =>
      match gridPoint? tie basin value e with
      | some m => (m, e)
      | none => firstGridPoint tie basin value finer

/-- The shortest decimal `m * 10 ^ e` of a positive double; seventeen digits always suffice. -/
def Binary.shortest (tie : Tie) (b : Binary) : Nat × Int :=
  let value := fractionOf b.significand b.exponent
  let digits := wholeDigits value
  firstGridPoint tie b.basin value ((List.range 17).map fun (n : Nat) => digits - 1 - n)

end FleetConsole.Decimal
