import Calculator.Expression.Evaluation

/-!
Expression trees and their value.

`Tree.value` is the value of an expression by recursion, without a stack. Running the
postfix order of a tree puts exactly this value on the stack
(`foldlM_step_postorder`), and the first failure of the recursion is the failure of the
run.
-/

namespace Calculator.Expression

variable {α : Type}

/-- An expression: a number, a name, a function of an operand, or an operator between two
operands. -/
inductive Tree (α : Type) where
  | number (value : α)
  | identifier (name : List Char)
  | function (symbol : List Char) (operand : Tree α)
  | operator (symbol : List Char) (left right : Tree α)

namespace Tree

/-- The value of an expression: first that of its operands, from left to right, then that
of the operation. The first failure on the way is the failure of the whole. -/
def value (registry : Registry α) (context : Context α) : Tree α → Except EvalError α
  | .number value => .ok value
  | .identifier name =>
      match context name with
      | some value => .ok value
      | none => .error .unknownName
  | .function symbol operand =>
      (operand.value registry context).bind fun operand =>
        registry.apply symbol .unary [operand]
  | .operator symbol left right =>
      (left.value registry context).bind fun left =>
        (right.value registry context).bind fun right =>
          registry.apply symbol .binary [left, right]

def postorder : Tree α → List (Token α)
  | .number value => [.number value]
  | .identifier name => [.identifier name]
  | .function symbol operand => operand.postorder ++ [.function symbol]
  | .operator symbol left right => left.postorder ++ right.postorder ++ [.operator symbol]

end Tree

variable {registry : Registry α} {context : Context α}

/-- The postfix order of an expression puts the value of the expression on the stack, and
leaves what is below it. -/
theorem foldlM_step_postorder (expression : Tree α) (stack : List α) :
    expression.postorder.foldlM (step registry context) stack =
      (expression.value registry context).map (· :: stack) := by
  induction expression generalizing stack with
  | number value => rfl
  | identifier name =>
      simp only [Tree.postorder, List.foldlM_cons, List.foldlM_nil, step, Tree.value]
      cases context name with
      | none => rfl
      | some value => rfl
  | function symbol operand ih =>
      rw [Tree.postorder, List.foldlM_append, ih, Tree.value]
      simp only [List.foldlM_cons, List.foldlM_nil, bind_pure]
      cases operand.value registry context with
      | error failure => rfl
      | ok operand => rfl
  | operator symbol left right ihLeft ihRight =>
      rw [Tree.postorder, List.foldlM_append, List.foldlM_append, ihLeft, Tree.value]
      simp only [List.foldlM_cons, List.foldlM_nil, bind_pure]
      cases left.value registry context with
      | error failure => rfl
      | ok left =>
          simp only [Except.map, bind, Except.bind, ihRight]
          cases right.value registry context with
          | error failure => rfl
          | ok right => rfl

/-- The postfix order of an expression has the value of the expression. -/
theorem runPostfix_postorder (expression : Tree α) :
    runPostfix registry context expression.postorder = expression.value registry context := by
  rw [runPostfix, foldlM_step_postorder]
  cases expression.value registry context with
  | error failure => rfl
  | ok value => rfl

end Calculator.Expression
