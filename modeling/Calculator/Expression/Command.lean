import Calculator.Nonlinear
import Calculator.Text.CommandWord
import Calculator.Value

/-!
Commands on expressions: `quadratic a b c` gives the real roots of a quadratic, `solve_nl
{equations} [guess]` solves nonlinear equations, and everything else is evaluated.
-/

namespace Calculator.Expression

variable {α : Type} [Arithmetic α] [Numeral α]

/-! ### Quadratic equations -/

/-- The real roots of `a x² + b x + c`, the one with the positive square root first. -/
def quadraticRoots (a b c : α) : Except EvalError (Vector α 2) :=
  if a == 0 then .error .indeterminate
  else
    let discriminant := b * b - ((4 : Nat) : α) * a * c
    if Arithmetic.below discriminant 0 then .error .negativeRoot
    else
      let root := Arithmetic.sqrt discriminant
      let twice := ((2 : Nat) : α) * a
      .ok #v[(-b + root) / twice, (-b - root) / twice]

/-- Solve the quadratic whose three coefficients a text lists. -/
def quadraticCommand (arguments : List Char) : Except EvalError (Vector α 2) :=
  match (Text.words arguments).mapM Numeral.read? with
  | some [a, b, c] => quadraticRoots a b c
  | _ => .error .operandMismatch

/-! ### Nonlinear equations -/

/-- The items of a list in a text: trimmed, and without empty ones. -/
def listItems (separator : Char) (text : List Char) : List (List Char) :=
  ((Text.pieces (· == separator) text).map Text.trim).filter fun item => !item.isEmpty

/-- The equations in braces and the guess in brackets behind them. -/
def readNonlinear? (arguments : List Char) : Option (List (List Char) × List α) :=
  (Text.enclosed? '\x7b' '\x7d' arguments).bind fun equations =>
    (Text.enclosed? '[' ']' equations.2).bind fun guess =>
      ((listItems ',' guess.1).mapM Numeral.read?).map fun values =>
        (listItems ';' equations.1, values)

/-! ### Commands -/

/-- Answer a text: a command with its arguments, or an expression. -/
def respond (registry : Registry α) (config : Config α) (context : Context α)
    (text : List Char) : Except Failure (Value α) :=
  match Text.commandArgument? "quadratic".toList text with
  | some arguments => ((quadraticCommand arguments).mapError Failure.algebraic).map .vector
  | none =>
      match Text.commandArgument? "solve_nl".toList text with
      | some arguments =>
          match readNonlinear? arguments with
          | some (equations, guess) =>
              (Nonlinear.solve registry config context equations
                guess.toArray.toVector).map .vector
          | none => .error (.algebraic .operandMismatch)
      | none => ((evaluate registry context text).mapError Failure.algebraic).map .scalar

end Calculator.Expression
