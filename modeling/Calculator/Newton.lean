import Calculator.Config
import Calculator.Failure
import Calculator.Linear.Elimination

/-!
Newton's method in several unknowns.

The residuals are given as a function that may fail. A step solves the linear system of
the forward differences for the change that makes the residuals vanish. The iteration
ends as soon as their norm is below the tolerance, when a step no longer moves the
estimate, or after a given number of steps.
-/

namespace Calculator.Newton

open Arithmetic Linear

variable {α : Type} [Arithmetic α] {n : Nat}

abbrev Residuals (α : Type) (n : Nat) :=
  Vector α n → Except EvalError (Vector α n)

def moveOne (x : Vector α n) (j : Fin n) (step : α) : Vector α n :=
  .ofFn fun i => if i = j then x.get i + step else x.get i

/-- The matrix of difference quotients at `x`, where the residuals are `fx`: each column
moves one unknown by `step`. -/
def jacobian (residuals : Residuals α n) (step : α) (x fx : Vector α n) :
    Except EvalError (DenseMatrix α n n) :=
  (Vector.ofFnM fun j : Fin n =>
    (residuals (moveOne x j step)).map fun moved =>
      Vector.ofFn fun i : Fin n => (moved.get i - fx.get i) / step).map
    fun columns => .ofFn fun i j => (columns.get j).get i

/-- The estimate that follows `x`, where the residuals are `fx`. -/
def advance (residuals : Residuals α n) (config : Config α) (x fx : Vector α n) :
    Except Failure (Vector α n) :=
  ((jacobian residuals config.differenceStep x fx).mapError Failure.algebraic).bind fun slopes =>
    ((gaussJordan slopes (fx.map (-·)) config.pivotTolerance).mapError
      Failure.linear).map fun change => .ofFn fun i : Fin n => change.get i + x.get i

/-- Do two estimates agree up to rounding? -/
def isStationary (x y : Vector α n) : Bool :=
  (List.finRange n).all fun i => nearlyEqual (x.get i) (y.get i)

/-- Improve an estimate by at most `rounds` steps. -/
def iterate (residuals : Residuals α n) (config : Config α) : (rounds : Nat) →
    Vector α n → Except Failure (Vector α n)
  | 0, x => .ok x
  | rounds + 1, x =>
      ((residuals x).mapError Failure.algebraic).bind fun fx =>
        if below (norm fx) config.residualTolerance then .ok x
        else
          (advance residuals config x fx).bind fun next =>
            if isStationary next x then .ok next else iterate residuals config rounds next

/-- Find a zero of the residuals from a first estimate. -/
def solve (residuals : Residuals α n) (config : Config α) (guess : Vector α n) :
    Except Failure (Vector α n) :=
  iterate residuals config config.newtonRounds guess

end Calculator.Newton
