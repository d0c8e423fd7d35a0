import Calculator.Decimal.Layout
import Calculator.Decimal.Literal
import Calculator.Decimal.Shortest
import Calculator.Number.Arithmetic
import Calculator.Number.Numeral

/-!
Binary64 floating point as the calculator's number type.

The basic operations are those of `Float`. Reading, writing and the remainder go through
the integer magnitudes of `Binary64`, so they are exact up to one final rounding.
-/

namespace Calculator.Double

/-- The place value of the sign, `2⁶³`. -/
def signPlace : Nat := 9223372036854775808

/-- The magnitude of a number, its bits below the sign. -/
def magnitude (x : Float) : Nat :=
  x.toBits.toNat % signPlace

def isNegative (x : Float) : Bool :=
  signPlace ≤ x.toBits.toNat

def ofMagnitude (negative : Bool) (magnitude : Nat) : Float :=
  Float.ofBits (UInt64.ofNat ((if negative then signPlace else 0) + magnitude))

def notANumber : Float :=
  ofMagnitude false (Binary64.infinity + Binary64.exponentPlace / 2)

/-- The number nearest to a literal. -/
def ofLiteral (literal : Decimal.Literal) : Float :=
  match literal.magnitude with
  | .notANumber => notANumber
  | .infinite => ofMagnitude literal.negative Binary64.infinity
  | .decimal coefficient exponent =>
      ofMagnitude literal.negative (Binary64.ofDecimal coefficient exponent)

def read? (text : List Char) : Option Float :=
  (Decimal.Literal.read? text).map ofLiteral

/-- Is the value not a number? Its magnitude is then above the infinite one. -/
def isNotANumber (x : Float) : Bool :=
  Binary64.infinity < magnitude x

/-- Is the value infinite, of either sign? -/
def isInfinite (x : Float) : Bool :=
  magnitude x = Binary64.infinity

/-- A number as text: one text for every value that is not a number, else the sign and
the magnitude, where `finite` lays out the finite magnitudes. -/
def writeWith (finite : Nat → List Char) (x : Float) : List Char :=
  if isNotANumber x then "NaN".toList
  else
    (if isNegative x then ['-'] else []) ++
      if isInfinite x then "inf".toList else finite (magnitude x)

/-- The shortest decimal that reads back as the number, without an exponent. -/
def write (x : Float) : List Char :=
  writeWith (fun bits =>
    match Decimal.shortest bits with
    | (coefficient, power) => Decimal.positional coefficient power) x

/-- The remainder of the truncated division, with the sign of the dividend. -/
def remainder (x y : Float) : Float :=
  if isNotANumber x || isNotANumber y || isInfinite x || magnitude y == 0 then notANumber
  else if isInfinite y then x
  else ofMagnitude (isNegative x) (Binary64.remainder (magnitude x) (magnitude y))

/-! ### The inverse hyperbolic tangent -/

/-- `ln (1 + x)` without loss of digits for a small `x`: the rounding error of the sum
cancels in the quotient. -/
def lnOnePlus (x : Float) : Float :=
  let sum := 1 + x
  if sum == 1 then x
  else if isInfinite sum then sum
  else Float.log sum * (x / (sum - 1))

/-- The inverse hyperbolic tangent, by its logarithmic formula. -/
def artanh (x : Float) : Float :=
  0.5 * lnOnePlus (2 * x / (1 - x))

end Calculator.Double

namespace Calculator

instance : Elementary Float where
  zero := 0.0
  one := 1.0
  natCast := Float.ofNat
  neg := Float.neg
  add := Float.add
  sub := Float.sub
  mul := Float.mul
  div := Float.div
  beq := Float.beq
  abs := Float.abs
  sqrt := Float.sqrt
  below x y := x < y
  atMost x y := x ≤ y
  isFinite := Float.isFinite
  pi := 3.141592653589793
  exp := Float.exp
  ln := Float.log
  log2 := Float.log2
  log10 := Float.log10
  power := Float.pow
  remainder := Double.remainder
  sin := Float.sin
  cos := Float.cos
  tan := Float.tan
  arcsin := Float.asin
  arccos := Float.acos
  arctan := Float.atan
  sinh := Float.sinh
  cosh := Float.cosh
  tanh := Float.tanh
  arsinh := Float.asinh
  arcosh := Float.acosh
  artanh := Double.artanh

instance : Numeral Float where
  read? := Double.read?
  write := Double.write

end Calculator
