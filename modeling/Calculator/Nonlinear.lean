import Calculator.Expression.Evaluation
import Calculator.Newton

/-!
Systems of nonlinear equations, given as text.

An equation is an expression that has to be zero, or two expressions that have to be
equal. Its unknowns are, in this order, `x`, `y`, `z`, `a`, `b` and `c`, as many as there
are equations; they hide variables of the same names.
-/

namespace Calculator.Nonlinear

open Expression

variable {α : Type}

def unknownNames : List (List Char) :=
  [['x'], ['y'], ['z'], ['a'], ['b'], ['c']]

/-- A context with values of the unknowns in front of it. -/
def bindUnknowns {n : Nat} (values : Vector α n) (outer : Context α) : Context α :=
  (Context.ofBindings (unknownNames.zip values.toList)).orElse outer

/-- The expression that is zero where an equation holds. -/
def residualText (equation : List Char) : List Char :=
  match Text.cut? '=' equation with
  | some (left, right) => '(' :: left ++ [')', ' ', '-', ' ', '('] ++ right ++ [')']
  | none => equation

/-- The residuals of equations in postfix order, as a function of the unknowns. -/
def residuals {n : Nat} (registry : Registry α) (context : Context α)
    (equations : Vector (List (Token α)) n) : Newton.Residuals α n :=
  fun x => Vector.ofFnM fun i : Fin n =>
    runPostfix registry (bindUnknowns x context) (equations.get i)

/-- Solve equations for as many unknowns, from a first estimate. -/
def solve [Arithmetic α] [Numeral α] {n : Nat} (registry : Registry α)
    (config : Config α) (context : Context α) (equations : List (List Char))
    (guess : Vector α n) : Except Failure (Vector α n) :=
  if square : equations.length = n ∧ 0 < n ∧ n ≤ unknownNames.length then
    ((Vector.ofFnM fun i : Fin n =>
      postfixOrder registry (residualText (equations.get (i.cast square.1.symm)))).mapError
        Failure.algebraic).bind fun compiled =>
      Newton.solve (residuals registry context compiled) config guess
  else .error (.algebraic .operandMismatch)

end Calculator.Nonlinear
