/-!
# Doubles as exact fractions

A finite double is a whole number times a power of two.  Here are the way from a double to that
form and the way back from any fraction: `nearest n d` is the double next to `n / d`, and of two
equally near ones the one with the even significand.  A fraction past the largest double gives
infinity.
-/

namespace FleetConsole.Decimal

/-- A whole number times a power of two. -/
structure Binary where
  significand : Nat
  exponent : Int
deriving DecidableEq

/-- The exponent of the smallest positive double. -/
def leastExponent : Int := -1074

/-- The highest bit of a significand of 53 bits. -/
def leadingBit : Nat := 4503599627370496

/-- The size of a finite double, its sign left aside. -/
def Binary.ofSize (x : Float) : Binary :=
  let bits := x.toBits.toNat
  let field : Nat := bits / leadingBit % 2048
  let fraction : Nat := bits % leadingBit
  if field = 0 then ⟨fraction, leastExponent⟩ else ⟨leadingBit + fraction, (field : Int) - 1075⟩

/-- Numerator and denominator of `m * 2 ^ e`. -/
def fractionOf (m : Nat) (e : Int) : Nat × Nat :=
  if 0 ≤ e then (m * Nat.pow 2 e.toNat, 1) else (m, Nat.pow 2 (-e).toNat)

/-- The whole number next to `n / d`; a half goes to the even neighbour. -/
def roundHalfEven (n d : Nat) : Nat :=
  let quotient := n / d
  let twice := 2 * (n % d)
  if twice < d then quotient
  else if d < twice then quotient + 1
  else quotient + quotient % 2

/-- The power of two at which `n / d` has a significand of 53 bits, or the least there is. -/
def exponentFor (n d : Nat) : Int :=
  let guess : Int := (n.log2 : Int) - d.log2 - 52
  let short :=
    if 0 ≤ guess then decide (n < leadingBit * d * Nat.pow 2 guess.toNat)
    else decide (n * Nat.pow 2 (-guess).toNat < leadingBit * d)
  max leastExponent (if short then guess - 1 else guess)

/-- The double next to `n / d`, for a positive `d`. -/
def nearest (n d : Nat) : Float :=
  let e := exponentFor n d
  let significand :=
    if 0 ≤ e then roundHalfEven n (d * Nat.pow 2 e.toNat)
    else roundHalfEven (n * Nat.pow 2 (-e).toNat) d
  let bits :=
    if significand < leadingBit then significand
    else (e - leastExponent + 1).toNat * leadingBit + (significand - leadingBit)
  Float.ofBits (min bits (2047 * leadingBit)).toUInt64

/-- The double next to `m * 10 ^ e`; far outside the range of the doubles the power is not
computed. -/
def nearestDecimal (m : Nat) (e : Int) : Float :=
  let magnitude : Int := (m.log2 : Int) * 30103 / 100000 + e
  if m = 0 || magnitude < -20000 then 0
  else if 20000 < e then 1.0 / 0.0
  else if 0 ≤ e then nearest (m * Nat.pow 10 e.toNat) 1
  else nearest m (Nat.pow 10 (-e).toNat)

/-- The double next to a power of ten. -/
def tenPower (exponent : Nat) : Float := nearest (Nat.pow 10 exponent) 1

end FleetConsole.Decimal
