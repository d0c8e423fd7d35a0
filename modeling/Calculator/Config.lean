import Calculator.Number.Arithmetic

/-!
The settings a calculator runs with, and the unit of its angles.
-/

namespace Calculator

/-- The unit in which trigonometric functions take angles and their inverses give them. -/
inductive AngleUnit where
  | degrees
  | radians
  deriving DecidableEq, Repr

namespace AngleUnit

variable {α : Type} [Elementary α]

def toRadians (unit : AngleUnit) (angle : α) : α :=
  match unit with
  | .degrees => angle * (Elementary.pi / ((180 : Nat) : α))
  | .radians => angle

def fromRadians (unit : AngleUnit) (angle : α) : α :=
  match unit with
  | .degrees => angle * (((180 : Nat) : α) / Elementary.pi)
  | .radians => angle

def rightAngle (unit : AngleUnit) : α :=
  unit.fromRadians (Elementary.pi / ((2 : Nat) : α))

end AngleUnit

structure Config (α : Type) where
  angleUnit : AngleUnit
  /-- Pivots, determinants and column norms below this count as zero. -/
  pivotTolerance : α
  /-- A reciprocal trigonometric function fails where its denominator is below this. -/
  poleTolerance : α
  eigenvalueRounds : Nat
  newtonRounds : Nat
  /-- The distance between the two points of a difference quotient. -/
  differenceStep : α
  /-- Newton's method stops once the norm of the residuals is below this. -/
  residualTolerance : α

namespace Config

variable {α : Type} [Arithmetic α]

def negativePowerOfTen (k : Nat) : α :=
  1 / (Nat.pow 10 k : α)

/-- Degrees, a tolerance of `10⁻⁹`, at most 100 rounds of the eigenvalue iteration, and
at most 50 Newton steps with a difference step of `10⁻⁵` until the residuals are below
`10⁻⁶`. -/
def standard : Config α where
  angleUnit := .degrees
  pivotTolerance := negativePowerOfTen 9
  poleTolerance := negativePowerOfTen 9
  eigenvalueRounds := 100
  newtonRounds := 50
  differenceStep := negativePowerOfTen 5
  residualTolerance := negativePowerOfTen 6

/-- Two settings are equal if their numbers compare as equal. -/
instance : BEq (Config α) where
  beq a b :=
    a.angleUnit == b.angleUnit && a.pivotTolerance == b.pivotTolerance &&
      a.poleTolerance == b.poleTolerance && a.eigenvalueRounds == b.eigenvalueRounds &&
      a.newtonRounds == b.newtonRounds && a.differenceStep == b.differenceStep &&
      a.residualTolerance == b.residualTolerance

end Config

end Calculator
