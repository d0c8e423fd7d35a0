import Calculator.Proofs.Expression.Arrangement
import Calculator.Proofs.Expression.Registration
import Calculator.Proofs.Expression.TreeOrder
import Calculator.Proofs.Nonlinear.Residual

/-!
What the value of a residual says about the sides of its equation.

The sides are kept apart by parentheses and by one count of operands only. A value says that
the sides together have as many opening as closing parentheses, and two operands more than
operators (`counts_of_residual`). If the parentheses of each side are balanced, the left side
has not more than one operand to spare, and no operands stand side by side on the right, then
the sides have values on their own, and the residual is their difference
(`values_of_residual`). Without these conditions one side can make up for what is wrong with
the other, or with its own parentheses (`residual_of_malformed_sides`).
-/

namespace Calculator.Nonlinear

open Expression

variable {α : Type} {registry : Registry α} {context : Context α}

/-! ### Counts of a postfix order -/

/-- A postfix order has as many tokens of a kind as the tokens it is made of, if the kind has
no parentheses. -/
theorem countP_of_convert {kind : Token α → Bool} {tokens order : List (Token α)}
    (symbols : ∀ token, kind token = true → token.isParenthesis = false)
    (converted : convert registry [] tokens = .ok order) :
    order.countP kind = tokens.countP kind := by
  rw [(convert_eq_ok converted).2.countP_eq, countP_symbolsOf symbols]

theorem not_isParenthesis_of_isAtom (token : Token α) (atom : token.isAtom = true) :
    token.isParenthesis = false := by
  cases token with
  | number value => rfl
  | identifier name => rfl
  | _ => cases atom

theorem not_isParenthesis_of_isOperator (token : Token α) (operator : token.isOperator = true) :
    token.isParenthesis = false := by
  cases token with
  | operator symbol => rfl
  | _ => cases operator

/-- A run on an empty stack leaves a value for each operand without an operator. -/
theorem length_of_run {tokens order : List (Token α)} {stack : List α}
    (converted : convert registry [] tokens = .ok order)
    (run : order.foldlM (step registry context) [] = .ok stack) :
    stack.length + tokens.countP Token.isOperator = tokens.countP Token.isAtom := by
  rw [← countP_of_convert not_isParenthesis_of_isAtom converted,
    ← countP_of_convert not_isParenthesis_of_isOperator converted, length_of_foldlM_step run]
  exact Nat.zero_add _

/-! ### Counts over both sides -/

variable [Numeral α] {left right : List Char} {value : α}

/-- What counts in both sides of an equation whose residual has a value. -/
theorem counts_of_residual (plain : registry.HasPlainSymbols)
    (minus : registry.isBinary ['-'] = true) (unread : Numeral.read? (α := α) ['-'] = none)
    (noEquals : '=' ∉ left)
    (evaluated : evaluate registry context (residualText (left ++ '=' :: right)) = .ok value) :
    let tokens := tokensOf registry left ++ tokensOf registry right
    tokens.countP Token.opensGroup = tokens.countP Token.closesGroup ∧
      tokens.countP Token.isAtom = tokens.countP Token.isOperator + 2 := by
  intro tokens
  obtain ⟨order, converted, run⟩ := exists_postfixOrder_of_evaluate evaluated
  rw [postfixOrder, tokensOf_residual plain minus unread noEquals] at converted
  have balanced := closes_iff_counts.mp (convert_eq_ok converted).1
  have groups := balanced.2
  have operands := counts_of_runPostfix run
  rw [countP_of_convert not_isParenthesis_of_isAtom converted,
    countP_of_convert not_isParenthesis_of_isOperator converted] at operands
  simp only [List.countP_cons, List.countP_append, List.countP_nil, Token.opensGroup,
    Token.closesGroup, Token.isAtom, Token.isOperator, Bool.false_eq_true, if_true, if_false]
    at groups operands
  simp only [tokens, List.countP_append]
  omega

/-! ### Values of the sides -/

omit [Numeral α] in
/-- If what stands in front of the postfix order of an expression and an operator leaves one
value, a value of the whole is that of the operation. -/
theorem values_of_runPostfix {first : List (Token α)} {second : Expression.Tree α}
    {symbol : List Char}
    (single : ∀ stack, first.foldlM (step registry context) [] = .ok stack → stack.length = 1)
    (run : runPostfix registry context (first ++ second.postorder ++ [.operator symbol]) =
      .ok value) :
    ∃ u v, runPostfix registry context first = .ok u ∧
      runPostfix registry context second.postorder = .ok v ∧
      registry.apply symbol .binary [u, v] = .ok value := by
  have steps := run
  rw [runPostfix, List.foldlM_append, List.foldlM_append] at steps
  cases atFirst : first.foldlM (step registry context) [] with
  | error failure =>
      rw [atFirst] at steps
      cases steps
  | ok stack =>
      obtain ⟨u, rfl⟩ := List.length_eq_one_iff.mp (single stack atFirst)
      have firstValue : runPostfix registry context first = .ok u := by
        rw [runPostfix, atFirst]
        rfl
      rw [atFirst] at steps
      change ((second.postorder.foldlM (step registry context) [u]).bind fun stack =>
        [Token.operator symbol].foldlM (step registry context) stack).bind onlyValue = _ at steps
      rw [foldlM_step_postorder] at steps
      cases atSecond : second.value registry context with
      | error failure =>
          rw [atSecond] at steps
          cases steps
      | ok v =>
          have secondValue : runPostfix registry context second.postorder = .ok v := by
            rw [runPostfix_postorder, atSecond]
          have operation := runPostfix_operation firstValue secondValue symbol
          exact ⟨u, v, firstValue, secondValue, operation.symm.trans run⟩

/-- A residual with a value is the difference of the values of its sides, if the parentheses
of each side are balanced, the left side has not more than one operand to spare, and on the
right no operand begins right behind another one. -/
theorem values_of_residual (plain : registry.HasPlainSymbols)
    (minus : registry.isBinary ['-'] = true) (unread : Numeral.read? (α := α) ['-'] = none)
    (noEquals : '=' ∉ left) (leftBalanced : Balanced (tokensOf registry left))
    (rightBalanced : Balanced (tokensOf registry right))
    (spare : (tokensOf registry left).countP Token.isAtom ≤
      (tokensOf registry left).countP Token.isOperator + 1)
    (separated : Separated (tokensOf registry right))
    (evaluated : evaluate registry context (residualText (left ++ '=' :: right)) = .ok value) :
    ∃ u v, evaluate registry context left = .ok u ∧ evaluate registry context right = .ok v ∧
      registry.apply ['-'] .binary [u, v] = .ok value := by
  have both := (counts_of_residual plain minus unread noEquals evaluated).2
  simp only [List.countP_append] at both
  have first : ∀ token ∈ (tokensOf registry right).head?,
      false = true → token.startsOperand = false := fun _ _ absurdity => nomatch absurdity
  have bound := (alternates_of_count separated first).1
  rw [Bool.toNat_false] at bound
  have atRight : IsExpression (tokensOf registry right) :=
    isExpression_of_counts rightBalanced (by omega) separated
  obtain ⟨tree, convertedRight⟩ : ∃ tree : Expression.Tree α,
      convert registry [] (tokensOf registry right) = .ok tree.postorder :=
    atRight.exists_tree
  obtain ⟨order, convertedLeft, -⟩ :
    ∃ order, convert registry [] (tokensOf registry left) = .ok order ∧
      order.Perm (symbolsOf (tokensOf registry left) ++ appliedTokens []) :=
        convert_of_closes leftBalanced
  have single (stack : List α) (run : order.foldlM (step registry context) [] = .ok stack) :
      stack.length = 1 := by
    have height := length_of_run convertedLeft run
    omega
  have converted :=
    postfixOrder_residualText plain minus unread noEquals convertedLeft convertedRight
  rw [evaluate_of_postfixOrder converted] at evaluated
  obtain ⟨u, v, leftValue, rightValue, applied⟩ := values_of_runPostfix single evaluated
  exact ⟨u, v, (evaluate_of_postfixOrder convertedLeft).trans leftValue,
    (evaluate_of_postfixOrder convertedRight).trans rightValue, applied⟩

/-- The sides of an equation, for the built-in operators. If its residual has a value, the
sides together have as many opening as closing parentheses and two operands more than
operators. If moreover the parentheses of each side are balanced, the left side has at most
one operand more than operators, and on the right no operand begins right behind another one,
then both sides have values on their own, and the residual is their difference. -/
theorem residual_isolates_sides (config : Config Float) {n : Nat} (values : Vector Float n)
    (outer : Context Float) {left right : List Char} (noEquals : '=' ∉ left) {value : Float}
    (evaluated : evaluate (Builtin.registry config) (bindUnknowns values outer)
      (residualText (left ++ '=' :: right)) = .ok value) :
    let registry := Builtin.registry config
    let context := bindUnknowns values outer
    let atLeft := tokensOf registry left
    let atRight := tokensOf registry right
    (atLeft ++ atRight).countP Token.opensGroup = (atLeft ++ atRight).countP Token.closesGroup ∧
    (atLeft ++ atRight).countP Token.isAtom = (atLeft ++ atRight).countP Token.isOperator + 2 ∧
    (Balanced atLeft → Balanced atRight →
      atLeft.countP Token.isAtom ≤ atLeft.countP Token.isOperator + 1 → Separated atRight →
      ∃ u v, evaluate registry context left = .ok u ∧ evaluate registry context right = .ok v ∧
        registry.apply ['-'] .binary [u, v] = .ok value) := by
  intro registry context atLeft atRight
  have plain : registry.HasPlainSymbols := Registry.hasPlainSymbols_builtin config
  have minus : registry.isBinary ['-'] = true :=
    Registry.isBinary_iff.mpr (Registry.mem_scanOrder_builtin.mpr (by decide))
  obtain ⟨groups, operands⟩ := counts_of_residual plain minus rfl noEquals evaluated
  exact ⟨groups, operands, fun leftBalanced rightBalanced spare separated =>
    values_of_residual plain minus rfl noEquals leftBalanced rightBalanced spare separated
      evaluated⟩

/-- A quotient and a sum that begins with a sign. -/
theorem residual_isolates_sides_quotient :
    let registry := Builtin.registry (Config.standard (α := Float))
    let unknowns : Context Float := bindUnknowns #v[3] Context.empty
    ∃ value, evaluate registry unknowns (residualText "6 / x= -x + (1 * 2)".toList) = .ok value ∧
      ∃ u v, evaluate registry unknowns "6 / x".toList = .ok u ∧
        evaluate registry unknowns " -x + (1 * 2)".toList = .ok v ∧
        registry.apply ['-'] .binary [u, v] = .ok value := by
  intro registry unknowns
  obtain ⟨value, evaluated⟩ : ∃ value, evaluate registry unknowns
      (residualText ("6 / x".toList ++ '=' :: " -x + (1 * 2)".toList)) = .ok value :=
    exists_value_of_isOk (by decide +kernel)
  obtain ⟨-, -, isolated⟩ :=
    residual_isolates_sides Config.standard #v[3] Context.empty (by decide) evaluated
  exact ⟨value, evaluated, isolated (by decide +kernel) (by decide +kernel) (by decide +kernel)
    (by decide +kernel)⟩

/-- The conditions are needed: the minus sign between the sides takes both operands from the
left, the parentheses around a side complete its own, and an operator on the right takes the
operand on the left. -/
theorem residual_of_malformed_sides :
    let registry := Builtin.registry (Config.standard (α := Float))
    let unknowns : Context Float := bindUnknowns #v[7] Context.empty
    let hasValue (text : List Char) : Prop := ∃ value, evaluate registry unknowns text = .ok value
    let hasResidual (left right : String) : Prop :=
      hasValue (residualText (left.toList ++ '=' :: right.toList))
    (hasResidual "x 2 " "" ∧ ¬ hasValue "x 2 ".toList ∧ ¬ hasValue []) ∧
      (hasResidual "x) + (2 " " 3" ∧ ¬ hasValue "x) + (2 ".toList) ∧
      (hasResidual "x " " 5 (*) 6" ∧ ¬ hasValue " 5 (*) 6".toList) := by
  intro registry unknowns hasValue hasResidual
  have present (text : List Char) (isOk : (evaluate registry unknowns text).isOk = true) :
      hasValue text := exists_value_of_isOk isOk
  have absent (text : List Char) (failed : (evaluate registry unknowns text).isOk = false) :
      ¬ hasValue text := by
    rintro ⟨value, evaluated⟩
    rw [evaluated] at failed
    cases failed
  refine ⟨⟨present _ ?_, absent _ ?_, absent _ ?_⟩, ⟨present _ ?_, absent _ ?_⟩,
    present _ ?_, absent _ ?_⟩ <;> decide +kernel

end Calculator.Nonlinear
