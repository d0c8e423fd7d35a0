import Calculator.Expression.Postfix

/-!
Evaluating expressions on a stack of values.

The first token that cannot be evaluated decides the error. A sequence that is the
postfix order of one expression leaves exactly one value.
-/

namespace Calculator.Expression

abbrev Context (α : Type) :=
  List Char → Option α

namespace Context

variable {α : Type}

def empty : Context α :=
  fun _ => none

/-- The context of a list of bindings; the first of several for one name counts. -/
def ofBindings (bindings : List (List Char × α)) : Context α :=
  fun name => (bindings.find? fun binding => binding.1 == name).map Prod.snd

/-- Look a name up in one context, and in a second one if the first has no value for it. -/
def orElse (first second : Context α) : Context α :=
  fun name => (first name).or (second name)

end Context

variable {α : Type}

/-- Process one token on a stack of values whose head is the latest. -/
def step (registry : Registry α) (context : Context α) (stack : List α) :
    Token α → Except EvalError (List α)
  | .number value => .ok (value :: stack)
  | .identifier name =>
      match context name with
      | some value => .ok (value :: stack)
      | none => .error .unknownName
  | .operator symbol =>
      match stack with
      | right :: left :: rest =>
          (registry.apply symbol .binary [left, right]).map (· :: rest)
      | _ => .error .operandMismatch
  | .function symbol =>
      match stack with
      | operand :: rest => (registry.apply symbol .unary [operand]).map (· :: rest)
      | [] => .error .operandMismatch
  | .openParen | .closeParen => .error .operandMismatch

/-- The answer a stack holds at the end: its only value. -/
def onlyValue : List α → Except EvalError α
  | [value] => .ok value
  | _ => .error .operandMismatch

/-- The value of a token sequence in postfix order. -/
def runPostfix (registry : Registry α) (context : Context α) (tokens : List (Token α)) :
    Except EvalError α :=
  (tokens.foldlM (step registry context) []).bind onlyValue

/-- The value of an expression. -/
def evaluate [Numeral α] (registry : Registry α) (context : Context α) (text : List Char) :
    Except EvalError α :=
  (postfixOrder registry text).bind (runPostfix registry context)

end Calculator.Expression
