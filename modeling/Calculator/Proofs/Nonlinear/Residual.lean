import Calculator.Nonlinear
import Calculator.Number.Double
import Calculator.Proofs.Expression.Assembly
import Calculator.Proofs.Expression.Group

/-!
The residual of an equation.

The sides of an equation are put between parentheses, with a minus sign in between. Their
tokens and their postfix orders stay what they are on their own, so the postfix order of the
residual is that of the left side, that of the right side and the minus sign
(`postfixOrder_residualText`), whatever precedences are registered; and its value is the
difference of their values (`runPostfix_difference`). Main statement:
`postfixOrder_of_equation`.
-/

namespace Calculator.Nonlinear

open Expression

variable {α : Type} {registry : Registry α}

/-! ### The text of a residual -/

theorem residualText_equation {left : List Char} (noEquals : '=' ∉ left) (right : List Char) :
    residualText (left ++ '=' :: right) =
      '(' :: (left ++ ')' :: ([' ', '-', ' '] ++ '(' :: (right ++ [')']))) := by
  have cut : Text.cut? '=' (left ++ '=' :: right) = some (left, right) :=
    Text.cut?_eq_some_iff.mpr ⟨rfl, noEquals⟩
  simp [residualText, cut]

/-- The minus sign of a residual is a word of its own. -/
theorem words_minus (plain : registry.HasPlainSymbols) (minus : registry.isBinary ['-'] = true) :
    Text.words (spaced registry.scanOrder [' ', '-', ' ']) = [['-']] := by
  have alone : Text.words [' ', '-', ' '] = [['-']] := by decide
  have whole : ∀ word ∈ Text.words [' ', '-', ' '], registry.KeepsWhole word := by
    rw [alone]
    intro word mem
    obtain rfl := List.mem_singleton.mp mem
    exact .inr (.inr (.inl (Registry.isBinary_iff.mp minus)))
  rw [Registry.words_spaced_of_whole plain whole, alone]

theorem words_residual (plain : registry.HasPlainSymbols) (minus : registry.isBinary ['-'] = true)
    (left right : List Char) :
    Text.words (spaced registry.scanOrder
        ('(' :: (left ++ ')' :: ([' ', '-', ' '] ++ '(' :: (right ++ [')']))))) =
      ['('] :: (Text.words (spaced registry.scanOrder left) ++ [')'] :: ['-'] ::
        ['('] :: (Text.words (spaced registry.scanOrder right) ++ [[')']])) := by
  have absent (c : Char) (parenthesis : isParenthesis c = true) :
      ∀ symbol ∈ registry.scanOrder, c ∉ symbol := by
    intro symbol mem inSymbol
    rw [(plain symbol mem c inSymbol).2] at parenthesis
    cases parenthesis
  have opening := words_spaced_parenthesis (absent '(' rfl) rfl
  have closing := words_spaced_parenthesis (absent ')' rfl) rfl
  have nothing : Text.words (spaced registry.scanOrder []) = [] :=
    congrArg Text.words spaced_nil
  rw [← List.nil_append ('(' :: (left ++ _)), opening, closing, opening, closing, nothing,
    words_minus plain minus]
  rfl

variable [Numeral α]

/-- The tokens of a residual are those of both sides in parentheses, with a minus sign in
between. -/
theorem tokensOf_residual (plain : registry.HasPlainSymbols)
    (minus : registry.isBinary ['-'] = true) (unread : Numeral.read? (α := α) ['-'] = none)
    {left : List Char} (noEquals : '=' ∉ left) (right : List Char) :
    tokensOf registry (residualText (left ++ '=' :: right)) =
      .openParen :: (tokensOf registry left ++ .closeParen :: .operator ['-'] ::
        .openParen :: (tokensOf registry right ++ [.closeParen])) := by
  have sign : classify registry true ['-'] = .operator ['-'] :=
    classify_operator_of_unread (by decide) minus unread
  rw [tokensOf, residualText_equation noEquals, words_residual plain minus, classifyWords_group]
  rw [classifyWords, sign, Token.endsOperand]
  rw [classifyWords_group]
  rfl

/-! ### The postfix order of a residual -/

/-- The sides of an equation are converted as they are on their own. -/
theorem postfixOrder_residualText (plain : registry.HasPlainSymbols)
    (minus : registry.isBinary ['-'] = true) (unread : Numeral.read? (α := α) ['-'] = none)
    {left right : List Char} (noEquals : '=' ∉ left) {leftOrder rightOrder : List (Token α)}
    (atLeft : postfixOrder registry left = .ok leftOrder)
    (atRight : postfixOrder registry right = .ok rightOrder) :
    postfixOrder registry (residualText (left ++ '=' :: right)) =
      .ok (leftOrder ++ rightOrder ++ [.operator ['-']]) := by
  have inLeft : convert registry [] (tokensOf registry left) = .ok leftOrder := atLeft
  have inRight : convert registry [] (tokensOf registry right) = .ok rightOrder := atRight
  have sign : convert registry [.operator ['-']] ([] : List (Token α)) =
      .ok [.operator ['-']] := rfl
  rw [postfixOrder, tokensOf_residual plain minus unread noEquals, convert_parenthesized rfl inLeft,
    convert, List.takeWhile_nil, List.dropWhile_nil, convert_parenthesized rfl inRight, sign]
  simp [Except.map]

/-! ### The value of a residual -/

omit [Numeral α] in
/-- Two sequences that have values, with an operator behind them, have the value of the
operation. -/
theorem runPostfix_operation {context : Context α} {first second : List (Token α)} {u v : α}
    (atFirst : runPostfix registry context first = .ok u)
    (atSecond : runPostfix registry context second = .ok v) (symbol : List Char) :
    runPostfix registry context (first ++ second ++ [.operator symbol]) =
      registry.apply symbol .binary [u, v] := by
  obtain ⟨left, rfl, leftValue⟩ := exists_tree_of_runPostfix atFirst
  obtain ⟨right, rfl, rightValue⟩ := exists_tree_of_runPostfix atSecond
  have whole : runPostfix registry context
      (Expression.Tree.operator symbol left right).postorder = _ :=
    runPostfix_postorder _
  rw [Expression.Tree.value, leftValue, rightValue] at whole
  exact whole

theorem evaluate_of_postfixOrder {context : Context α} {text : List Char} {order : List (Token α)}
    (converted : postfixOrder registry text = .ok order) :
    evaluate registry context text = runPostfix registry context order := by
  rw [evaluate, converted]
  rfl

theorem exists_postfixOrder_of_evaluate {context : Context α} {text : List Char} {value : α}
    (evaluated : evaluate registry context text = .ok value) :
    ∃ order, postfixOrder registry text = .ok order ∧
      runPostfix registry context order = .ok value := by
  cases converted : postfixOrder registry text with
  | error failure =>
      rw [evaluate, converted] at evaluated
      cases evaluated
  | ok order => exact ⟨order, rfl, (evaluate_of_postfixOrder converted).symm.trans evaluated⟩

/-- The residual of an equation is the difference of its sides. Where `-` stands between two
operands and no binary symbol has a blank or a parenthesis in it, let both sides of an
equation have a postfix order of their own. Then that of the residual is the left one, the
right one and the minus sign, whatever precedences are registered. Hence, for all values of
the unknowns and every context, if the sides have values on their own, the residual has the
value of the operation on these two. -/
theorem postfixOrder_of_equation {registry : Registry Float} (plain : registry.HasPlainSymbols)
    (minus : registry.isBinary ['-'] = true) {left right : List Char} (noEquals : '=' ∉ left)
    {leftOrder rightOrder : List (Token Float)}
    (atLeft : postfixOrder registry left = .ok leftOrder)
    (atRight : postfixOrder registry right = .ok rightOrder) :
    let compiled := leftOrder ++ rightOrder ++ [.operator ['-']]
    postfixOrder registry (residualText (left ++ '=' :: right)) = .ok compiled ∧
    ∀ (n : Nat) (values : Vector Float n) (outer : Context Float) (u v : Float),
      evaluate registry (bindUnknowns values outer) left = .ok u →
      evaluate registry (bindUnknowns values outer) right = .ok v →
      runPostfix registry (bindUnknowns values outer) compiled =
        registry.apply ['-'] .binary [u, v] := by
  refine ⟨postfixOrder_residualText plain minus rfl noEquals atLeft atRight, ?_⟩
  intro n values outer u v leftValue rightValue
  rw [evaluate_of_postfixOrder atLeft] at leftValue
  rw [evaluate_of_postfixOrder atRight] at rightValue
  exact runPostfix_operation leftValue rightValue ['-']

/-- A minus sign that binds as tightly as a function, between two differences. -/
theorem postfixOrder_of_equation_difference :
    let registry := (Builtin.registry Config.standard).register
      (Builtin.between "-" .unary fun x y : Float => .ok (x - y))
    let left := "x - 2 * -y".toList
    let right := " (1 - x) / sqrt y".toList
    let unknowns : Context Float := bindUnknowns #v[3, 4] Context.empty
    ∃ leftOrder rightOrder u v, postfixOrder registry left = .ok leftOrder ∧
      postfixOrder registry right = .ok rightOrder ∧
      evaluate registry unknowns left = .ok u ∧ evaluate registry unknowns right = .ok v ∧
      postfixOrder registry (residualText "x - 2 * -y= (1 - x) / sqrt y".toList) =
        .ok (leftOrder ++ rightOrder ++ [.operator ['-']]) ∧
      evaluate registry unknowns (residualText "x - 2 * -y= (1 - x) / sqrt y".toList) =
        registry.apply ['-'] .binary [u, v] := by
  intro registry left right unknowns
  obtain ⟨leftOrder, atLeft⟩ : ∃ order, postfixOrder registry left = .ok order :=
    exists_value_of_isOk (by decide +kernel)
  obtain ⟨rightOrder, atRight⟩ : ∃ order, postfixOrder registry right = .ok order :=
    exists_value_of_isOk (by decide +kernel)
  obtain ⟨u, leftValue⟩ : ∃ u, evaluate registry unknowns left = .ok u :=
    exists_value_of_isOk (by decide +kernel)
  obtain ⟨v, rightValue⟩ : ∃ v, evaluate registry unknowns right = .ok v :=
    exists_value_of_isOk (by decide +kernel)
  obtain ⟨compiled, value⟩ := postfixOrder_of_equation (by decide +kernel) (by decide +kernel)
    (by decide) atLeft atRight
  refine ⟨leftOrder, rightOrder, u, v, atLeft, atRight, leftValue, rightValue, compiled, ?_⟩
  rw [← value 2 #v[3, 4] Context.empty u v leftValue rightValue]
  exact evaluate_of_postfixOrder compiled

end Calculator.Nonlinear
