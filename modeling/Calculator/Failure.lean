/-!
What can go wrong, and how it is reported.

Evaluating an expression and solving a linear system fail for reasons of their own;
`Failure` is either of the two. `message` gives the text shown for a cause.
-/

namespace Calculator

/-- Why an expression has no value. -/
inductive EvalError where
  | divisionByZero
  | indeterminate
  | negativeRoot
  | outsideDomain
  | operandMismatch
  | unknownName
  deriving DecidableEq, Repr

/-- Why a linear system or a matrix has no answer. -/
inductive LinearError where
  | noUniqueSolution
  | shapeMismatch
  | unreadable
  deriving DecidableEq, Repr

/-- Why a text has no answer. -/
inductive Failure where
  | algebraic (cause : EvalError)
  | linear (cause : LinearError)
  deriving DecidableEq, Repr

def EvalError.message : EvalError → String
  | .divisionByZero => "division by zero"
  | .indeterminate => "the result is indeterminate"
  | .negativeRoot => "square root of a negative number"
  | .outsideDomain => "argument is outside the function's domain"
  | .operandMismatch => "operator or function received the wrong number of arguments"
  | .unknownName => "unknown operator, function or variable"

def LinearError.message : LinearError → String
  | .noUniqueSolution => "the system has no unique solution"
  | .shapeMismatch => "the matrix dimensions don't match"
  | .unreadable => "unable to parse the input"

def Failure.message : Failure → String
  | .algebraic cause => cause.message
  | .linear cause => cause.message

theorem exists_value_of_isOk {ε β : Type} {result : Except ε β} (isOk : result.isOk = true) :
    ∃ value, result = .ok value := by
  cases result with
  | error cause => cases isOk
  | ok value => exact ⟨value, rfl⟩

end Calculator
