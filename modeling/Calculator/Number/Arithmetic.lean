/-!
The numbers a calculation runs on.

`Arithmetic` lists the operations the evaluator and the solvers use and states no
law about them. Every algorithm of the library is written once over this class,
so the same definition runs on floating point and can be read in an exact field.
`Elementary` adds the transcendental functions of the built-in operators.
-/

namespace Calculator

/-- A type of numbers with the operations of a solver. `below` and `atMost` are the
strict and the weak comparison, `==` the test for equal values; a value that is not a
number makes all three fail. -/
class Arithmetic (α : Type) extends
    Zero α, One α, NatCast α, Neg α, Add α, Sub α, Mul α, Div α, BEq α where
  abs : α → α
  sqrt : α → α
  below : α → α → Bool
  atMost : α → α → Bool
  isFinite : α → Bool

/-- Numbers that also have the elementary functions. Angles are in radians and
`remainder` takes the sign of the dividend. -/
class Elementary (α : Type) extends Arithmetic α where
  pi : α
  exp : α → α
  ln : α → α
  log2 : α → α
  log10 : α → α
  power : α → α → α
  remainder : α → α → α
  sin : α → α
  cos : α → α
  tan : α → α
  arcsin : α → α
  arccos : α → α
  arctan : α → α
  sinh : α → α
  cosh : α → α
  tanh : α → α
  arsinh : α → α
  arcosh : α → α
  artanh : α → α

namespace Arithmetic

variable {α : Type} [Arithmetic α]

/-- The gap between one and the next binary64 number, `2⁻⁵²`. -/
def epsilon : α := 1 / ((4503599627370496 : Nat) : α)

/-- Two numbers agree up to rounding: they are equal, or both are finite and differ by
at most `epsilon`, absolutely or relative to the larger magnitude. -/
def nearlyEqual (x y : α) : Bool :=
  if x == y then true
  else if !(isFinite x && isFinite y) then false
  else
    let gap := abs (x - y)
    let larger := if below (abs x) (abs y) then abs y else abs x
    atMost gap epsilon || atMost gap (larger * epsilon)

end Arithmetic

end Calculator
