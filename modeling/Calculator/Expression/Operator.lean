import Calculator.Failure

/-!
Operators and functions of an expression: a symbol, how many operands it takes, how
tightly it binds, and what it computes.
-/

namespace Calculator.Expression

/-- How tightly an operator binds its operands, from loosest to tightest. -/
inductive Precedence where
  | loosest
  | additive
  | multiplicative
  | exponential
  | unary
  deriving DecidableEq, Repr

def Precedence.level : Precedence → Nat
  | .loosest => 0
  | .additive => 1
  | .multiplicative => 2
  | .exponential => 3
  | .unary => 4

/-- Whether an operator stands between two operands or in front of one. -/
inductive Arity where
  | unary
  | binary
  deriving DecidableEq, Repr

/-- What an operator computes from its operands, given from left to right. -/
abbrev Operation (α : Type) :=
  List α → Except EvalError α

namespace Operation

variable {α : Type}

/-- The operation of a function of one operand; any other number of them is an error. -/
def ofUnary (f : α → Except EvalError α) : Operation α
  | [operand] => f operand
  | _ => .error .operandMismatch

/-- The operation of a function of two operands; any other number of them is an error. -/
def ofBinary (f : α → α → Except EvalError α) : Operation α
  | [left, right] => f left right
  | _ => .error .operandMismatch

end Operation

structure Operator (α : Type) where
  symbol : List Char
  arity : Arity
  precedence : Precedence
  operation : Operation α

namespace Operator

variable {α : Type}

def infixed (symbol : List Char) (precedence : Precedence) (operation : Operation α) :
    Operator α :=
  ⟨symbol, .binary, precedence, operation⟩

/-- An operator or function in front of its operand. It binds tightest of all. -/
def prefixed (symbol : List Char) (operation : Operation α) : Operator α :=
  ⟨symbol, .unary, .unary, operation⟩

end Operator

end Calculator.Expression
