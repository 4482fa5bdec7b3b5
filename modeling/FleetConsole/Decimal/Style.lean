import FleetConsole.Decimal.Shortest

/-!
# How decimals are written

A style says which magnitudes are written with all their digits and which with an exponent, how the
exponent looks and where ties go.  Whatever the style, a decimal always shows a point or an
exponent, so that it is never taken for an integer.
-/

namespace FleetConsole.Decimal

/-- The decisions about the text of a double. -/
structure Style where
  /-- the exponent of the leading digit from which on all digits are written -/
  least : Int
  /-- the exponent of the leading digit from which on an exponent is written -/
  bound : Int
  /-- whether an exponent that is not negative has a sign -/
  plus : Bool
  tie : Tie

/-- Splits zeros off the end of a positive number: the rest, and its power of ten. -/
def stripZeros : Nat → Nat → Int → Nat × Int
  | 0, m, e => (m, e)
  | fuel + 1, m, e => if m ≠ 0 ∧ m % 10 = 0 then stripZeros fuel (m / 10) (e + 1) else (m, e)

/-- The decimal digits of a number. -/
def digits (n : Nat) : List Char := Nat.toDigits 10 n

/-- All digits, with a point after the first `whole` of them. -/
def positional (ds : List Char) (whole : Int) : List Char :=
  if whole ≤ 0 then '0' :: '.' :: (List.replicate (-whole).toNat '0' ++ ds)
  else if ds.length ≤ whole.toNat then
    ds ++ List.replicate (whole.toNat - ds.length) '0' ++ ['.', '0']
  else ds.take whole.toNat ++ '.' :: ds.drop whole.toNat

/-- One digit before the point and an exponent. -/
def exponential (plus : Bool) (ds : List Char) (exponent : Int) : List Char :=
  let mantissa :=
    match ds with
    | [] => []
    | [d] => [d]
    | d :: more => d :: '.' :: more
  let sign := if exponent < 0 then ['-'] else if plus then ['+'] else []
  mantissa ++ 'e' :: sign ++ digits exponent.natAbs

/-- The text of a positive finite double. -/
def Style.positive (style : Style) (b : Binary) : List Char :=
  let (m, e) := b.shortest style.tie
  let (m, e) := stripZeros 18 m e
  let ds := digits m
  let leading := e + ds.length - 1
  if style.least ≤ leading ∧ leading < style.bound then positional ds (leading + 1)
  else exponential style.plus ds leading

/-- The text of a double. -/
def Style.text (style : Style) (x : Float) : String :=
  if x.isNaN then "NaN"
  else
    let sign := if x.toBits >>> 63 = 1 then "-" else ""
    if x.isInf then sign ++ "inf"
    else
      let size := Binary.ofSize x
      sign ++ (if size.significand = 0 then "0.0" else String.ofList (style.positive size))

end FleetConsole.Decimal
