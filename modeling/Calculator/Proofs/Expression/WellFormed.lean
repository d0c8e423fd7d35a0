import Calculator.Expression.Builtin
import Calculator.Expression.Evaluation
import Calculator.Number.Double
import Calculator.Proofs.Expression.Conversion
import Mathlib.Data.List.Chain

/-!
Which token sequences have a value.

`IsExpression` is the grammar of infix expressions. Neither the conversion nor the stack
looks at which token stands next to which, so a value alone says two things only: the
parentheses are balanced, and there is one operand more than there are operators. A
sequence with these two counts that is no expression, such as `1 2 +`, has operands side by
side (`evaluate_eq_ok`).

The counts force the grammar by way of `Alternates`. Reading from left to right, every
operator needs an operand on both of its sides; if no two operands meet, an operand that is
missing somewhere cannot be made up for anywhere else.
-/

namespace Calculator.Expression

variable {α : Type}

/-! ### The grammar -/

mutual

/-- The infix expressions: operands with operators between them. -/
inductive IsExpression : List (Token α) → Prop where
  | operand {tokens : List (Token α)} : IsOperand tokens → IsExpression tokens
  | operation {left right : List (Token α)} {symbol : List Char} : IsExpression left →
      IsExpression right → IsExpression (left ++ .operator symbol :: right)

/-- The operands of operators: numbers, names, expressions in parentheses, and functions in
front of an operand. -/
inductive IsOperand : List (Token α) → Prop where
  | number (value : α) : IsOperand [.number value]
  | identifier (name : List Char) : IsOperand [.identifier name]
  | group {tokens : List (Token α)} : IsExpression tokens →
      IsOperand (.openParen :: tokens ++ [.closeParen])
  | application {symbol : List Char} {tokens : List (Token α)} : IsOperand tokens →
      IsOperand (.function symbol :: tokens)

end

namespace Token

/-- Can the token be the first one of an operand? -/
def startsOperand : Token α → Bool
  | .number _ | .identifier _ | .openParen | .function _ => true
  | .operator _ | .closeParen => false

def isAtom : Token α → Bool
  | .number _ | .identifier _ => true
  | .operator _ | .function _ | .openParen | .closeParen => false

def isOperator : Token α → Bool
  | .operator _ => true
  | .number _ | .identifier _ | .function _ | .openParen | .closeParen => false

end Token

/-- No operand begins right behind another one. -/
def Separated (tokens : List (Token α)) : Prop :=
  tokens.IsChain fun token next => token.endsOperand = true → next.startsOperand = false

/-- Operands and operators take turns: an operand begins exactly where none has just
ended, and at the end there is one. -/
def Alternates : Bool → List (Token α) → Prop
  | followsOperand, [] => followsOperand = true
  | followsOperand, token :: rest =>
      token.startsOperand = !followsOperand ∧ Alternates token.endsOperand rest

instance decidableAlternates : (followsOperand : Bool) → (tokens : List (Token α)) →
    Decidable (Alternates followsOperand tokens)
  | followsOperand, [] => inferInstanceAs (Decidable (followsOperand = true))
  | followsOperand, token :: rest =>
      have := decidableAlternates token.endsOperand rest
      inferInstanceAs (Decidable (token.startsOperand = !followsOperand ∧ _))

instance (tokens : List (Token α)) : Decidable (Separated tokens) :=
  inferInstanceAs (Decidable (List.IsChain _ _))

/-! ### Values are counted -/

variable {registry : Registry α} {context : Context α}

theorem length_of_map {stack after : List α} {result : Except EvalError α}
    (mapped : result.map (· :: stack) = .ok after) : after.length = stack.length + 1 := by
  cases result with
  | error failure => cases mapped
  | ok value =>
      cases mapped
      rfl

/-- A number or a name adds a value to the stack, an operator takes one away. -/
theorem length_of_step {stack after : List α} {token : Token α}
    (stepped : step registry context stack token = .ok after) :
    after.length + token.isOperator.toNat = stack.length + token.isAtom.toNat := by
  fun_cases step registry context stack token with
  | case1 stack value =>
      cases stepped
      rfl
  | case2 stack name value bound =>
      rw [step, bound] at stepped
      cases stepped
      rfl
  | case3 stack name unbound =>
      rw [step, unbound] at stepped
      cases stepped
  | case4 symbol right left rest =>
      have height := length_of_map stepped
      simp [height, Token.isOperator, Token.isAtom]
  | case5 stack symbol fewer =>
      rw [step] at stepped
      · cases stepped
      · exact fewer
  | case6 symbol operand rest => exact length_of_map stepped
  | case7 symbol => cases stepped
  | case8 => cases stepped
  | case9 => cases stepped

theorem countP_cons_toNat (kind : Token α → Bool) (token : Token α) (rest : List (Token α)) :
    (token :: rest).countP kind = rest.countP kind + (kind token).toNat := by
  rw [List.countP_cons]
  cases kind token <;> rfl

/-- How many values a run leaves. -/
theorem length_of_foldlM_step {stack after : List α} {tokens : List (Token α)}
    (run : tokens.foldlM (step registry context) stack = .ok after) :
    after.length + tokens.countP Token.isOperator = stack.length + tokens.countP Token.isAtom := by
  induction tokens generalizing stack with
  | nil =>
      cases run
      rfl
  | cons token rest ih =>
      rw [List.foldlM_cons] at run
      cases stepped : step registry context stack token with
      | error failure =>
          rw [stepped] at run
          cases run
      | ok between =>
          rw [stepped] at run
          have first := length_of_step stepped
          have others := ih run
          rw [countP_cons_toNat, countP_cons_toNat]
          omega

theorem countP_symbolsOf {kind : Token α → Bool}
    (plain : ∀ token, kind token = true → token.isParenthesis = false)
    (tokens : List (Token α)) : (symbolsOf tokens).countP kind = tokens.countP kind := by
  rw [symbolsOf, List.countP_filter]
  apply List.countP_congr
  intro token _
  cases isKind : kind token with
  | false => simp
  | true => simp [plain token isKind]

/-! ### Counts and turns -/

/-- What one token does to the counts: it is an operand only where none has just ended, and
an operator too many is never made up for. -/
theorem turn_of_count {token : Token α} {followsOperand : Bool}
    (separated : followsOperand = true → token.startsOperand = false) :
    token.isAtom.toNat + followsOperand.toNat ≤
        token.isOperator.toNat + token.endsOperand.toNat ∧
      (token.isAtom.toNat + followsOperand.toNat =
        token.isOperator.toNat + token.endsOperand.toNat →
          token.startsOperand = !followsOperand) := by
  cases token <;> cases followsOperand <;>
    simp_all [Token.isAtom, Token.isOperator, Token.startsOperand, Token.endsOperand]

/-- Where no operand begins right behind another one, there are at most as many operands
as the operators leave room for, and exactly as many only if both take turns. -/
theorem alternates_of_count {tokens : List (Token α)} {followsOperand : Bool}
    (separated : Separated tokens)
    (first : ∀ token ∈ tokens.head?, followsOperand = true → token.startsOperand = false) :
    tokens.countP Token.isAtom + followsOperand.toNat ≤
        tokens.countP Token.isOperator + 1 ∧
      (tokens.countP Token.isAtom + followsOperand.toNat =
        tokens.countP Token.isOperator + 1 → Alternates followsOperand tokens) := by
  induction tokens generalizing followsOperand with
  | nil => cases followsOperand <;> simp [Alternates]
  | cons token rest ih =>
      obtain ⟨next, separatedRest⟩ := List.isChain_cons.mp separated
      obtain ⟨bound, turns⟩ := ih separatedRest next
      obtain ⟨tokenBound, turn⟩ := turn_of_count (first token rfl)
      rw [countP_cons_toNat, countP_cons_toNat]
      refine ⟨by omega, fun exact => ⟨turn (by omega), turns (by omega)⟩⟩

/-! ### Turns and the grammar -/

/-- What stays an expression behind every expression. -/
def IsExtension (tokens : List (Token α)) : Prop :=
  ∀ left, IsExpression left → IsExpression (left ++ tokens)

/-- The tokens behind an expression go on with it up to the end, through `groups` closing
parentheses. -/
def Continues : Nat → List (Token α) → Prop
  | 0, tokens => IsExtension tokens
  | groups + 1, tokens => ∃ inner rest, tokens = inner ++ .closeParen :: rest ∧
      IsExtension inner ∧ Continues groups rest

theorem isExtension_nil : IsExtension ([] : List (Token α)) := by
  intro left expression
  rwa [List.append_nil]

theorem IsExtension.append {first second : List (Token α)} (isFirst : IsExtension first)
    (isSecond : IsExtension second) : IsExtension (first ++ second) := by
  intro left expression
  rw [← List.append_assoc]
  exact isSecond _ (isFirst _ expression)

/-- What extends every expression can stand in front of a continuation. -/
theorem Continues.append {groups : Nat} {tokens extension : List (Token α)}
    (isExtension : IsExtension extension) (continues : Continues groups tokens) :
    Continues groups (extension ++ tokens) := by
  cases groups with
  | zero => exact isExtension.append continues
  | succ groups =>
      obtain ⟨inner, rest, rfl, isInner, outer⟩ := continues
      exact ⟨extension ++ inner, rest, by simp, isExtension.append isInner, outer⟩

theorem isExtension_operation {operand : List (Token α)} (symbol : List Char)
    (isOperand : IsOperand operand) : IsExtension (.operator symbol :: operand) :=
  fun _ expression => .operation expression (.operand isOperand)

/-- The tokens begin with an operand, and behind it they go on. -/
def BeginsOperand (groups : Nat) (tokens : List (Token α)) : Prop :=
  ∃ operand rest, tokens = operand ++ rest ∧ IsOperand operand ∧ Continues groups rest

/-- Tokens that take turns and close their groups follow the grammar: behind an operand they
go on with the expression, elsewhere they begin with the next operand. -/
theorem continues_of_alternates {tokens : List (Token α)} {groups : Nat}
    {followsOperand : Bool} (alternates : Alternates followsOperand tokens)
    (closes : Closes groups tokens) :
    if followsOperand then Continues groups tokens else BeginsOperand groups tokens := by
  induction tokens generalizing groups followsOperand with
  | nil =>
      cases alternates
      cases closes
      exact isExtension_nil
  | cons token rest ih =>
      obtain ⟨turn, restAlternates⟩ := alternates
      cases token with
      | number value =>
          have continues : Continues groups rest := ih restAlternates closes
          cases followsOperand with
          | true => cases turn
          | false => exact ⟨[.number value], rest, rfl, .number value, continues⟩
      | identifier name =>
          have continues : Continues groups rest := ih restAlternates closes
          cases followsOperand with
          | true => cases turn
          | false => exact ⟨[.identifier name], rest, rfl, .identifier name, continues⟩
      | function symbol =>
          obtain ⟨operand, others, rfl, isOperand, continues⟩ :
            BeginsOperand groups rest := ih restAlternates closes
          cases followsOperand with
          | true => cases turn
          | false =>
              exact ⟨.function symbol :: operand, others, rfl, .application isOperand, continues⟩
      | openParen =>
          -- what continues one group deeper holds the rest of this group and what is behind it
          obtain ⟨operand, others, rfl, isOperand, inner, behind, rfl, isInner, continues⟩ :
            BeginsOperand (groups + 1) rest := ih restAlternates closes
          cases followsOperand with
          | true => cases turn
          | false =>
              have group := IsOperand.group (isInner operand (.operand isOperand))
              exact ⟨_, behind, by simp, group, continues⟩
      | operator symbol =>
          obtain ⟨operand, others, rfl, isOperand, continues⟩ :
            BeginsOperand groups rest := ih restAlternates closes
          cases followsOperand with
          | true => exact continues.append (isExtension_operation symbol isOperand)
          | false => cases turn
      | closeParen =>
          cases groups with
          | zero => cases closes
          | succ groups =>
              have continues : Continues groups rest := ih restAlternates closes
              cases followsOperand with
              | true => exact ⟨[], rest, rfl, isExtension_nil, continues⟩
              | false => cases turn

theorem Alternates.append {first second : List (Token α)} {followsOperand : Bool}
    (isFirst : Alternates followsOperand first) (isSecond : Alternates true second) :
    Alternates followsOperand (first ++ second) := by
  induction first generalizing followsOperand with
  | nil =>
      cases isFirst
      exact isSecond
  | cons token rest ih => exact ⟨isFirst.1, ih isFirst.2⟩

mutual

theorem IsExpression.alternates {tokens : List (Token α)} (expression : IsExpression tokens) :
    Alternates false tokens :=
  match expression with
  | .operand isOperand => isOperand.alternates
  | .operation isLeft isRight => isLeft.alternates.append ⟨rfl, isRight.alternates⟩

theorem IsOperand.alternates {tokens : List (Token α)} (operand : IsOperand tokens) :
    Alternates false tokens :=
  match operand with
  | .number _ => ⟨rfl, rfl⟩
  | .identifier _ => ⟨rfl, rfl⟩
  | .group inner => ⟨rfl, inner.alternates.append ⟨rfl, rfl⟩⟩
  | .application isOperand => ⟨rfl, isOperand.alternates⟩

end

mutual

theorem IsExpression.closes {tokens : List (Token α)} (expression : IsExpression tokens) :
    Balanced tokens :=
  match expression with
  | .operand isOperand => isOperand.closes
  | .operation isLeft isRight =>
      isLeft.closes.append (show Closes 0 (.operator _ :: _) from isRight.closes)

theorem IsOperand.closes {tokens : List (Token α)} (operand : IsOperand tokens) :
    Balanced tokens :=
  match operand with
  | .number _ => rfl
  | .identifier _ => rfl
  | .group inner => inner.closes.append (show Closes 1 [.closeParen] from rfl)
  | .application isOperand => isOperand.closes

end

/-- The expressions of the grammar are the sequences in which operands and operators take
turns and all parentheses are closed. -/
theorem isExpression_iff {tokens : List (Token α)} :
    IsExpression tokens ↔ Alternates false tokens ∧ Balanced tokens := by
  constructor
  · exact fun expression => ⟨expression.alternates, expression.closes⟩
  · rintro ⟨alternates, balanced⟩
    obtain ⟨operand, rest, rfl, isOperand, continues⟩ : BeginsOperand 0 tokens :=
      continues_of_alternates alternates balanced
    exact continues operand (.operand isOperand)

instance (tokens : List (Token α)) : Decidable (IsExpression tokens) :=
  decidable_of_iff' _ isExpression_iff

/-! ### Values and the grammar -/

/-- Balanced parentheses and one operand more than there are operators make an expression,
unless operands stand side by side. -/
theorem isExpression_of_counts {tokens : List (Token α)} (balanced : Balanced tokens)
    (counts : tokens.countP Token.isAtom = tokens.countP Token.isOperator + 1)
    (separated : Separated tokens) : IsExpression tokens := by
  have first : ∀ token ∈ tokens.head?, false = true → token.startsOperand = false :=
    fun _ _ absurdity => nomatch absurdity
  exact isExpression_iff.mpr ⟨(alternates_of_count separated first).2 counts, balanced⟩

theorem counts_of_runPostfix {tokens : List (Token α)} {value : α}
    (run : runPostfix registry context tokens = .ok value) :
    tokens.countP Token.isAtom = tokens.countP Token.isOperator + 1 := by
  rw [runPostfix] at run
  cases stack : tokens.foldlM (step registry context) [] with
  | error failure =>
      rw [stack] at run
      cases run
  | ok values =>
      have height := length_of_foldlM_step stack
      rw [stack] at run
      simp only [Except.bind] at run
      match values, run with
      | [_], _ => simpa [Nat.add_comm] using height.symm

/-- What a value says about the text it is the value of. Its parentheses are balanced, and
it has one operand more than operators. If no operand begins right behind another one, it is
an expression of the grammar. -/
theorem evaluate_eq_ok [Numeral α] {text : List Char} {value : α}
    (evaluated : evaluate registry context text = .ok value) :
    let tokens := tokensOf registry text
    Balanced tokens ∧
      tokens.countP Token.isAtom = tokens.countP Token.isOperator + 1 ∧
      (Separated tokens → IsExpression tokens) := by
  intro tokens
  rw [evaluate, postfixOrder] at evaluated
  cases converted : convert registry [] tokens with
  | error failure =>
      rw [converted] at evaluated
      cases evaluated
  | ok output =>
      rw [converted] at evaluated
      obtain ⟨balanced, perm⟩ := convert_eq_ok converted
      have counts := counts_of_runPostfix evaluated
      rw [perm.countP_eq, perm.countP_eq, countP_symbolsOf, countP_symbolsOf] at counts
      · exact ⟨balanced, counts, isExpression_of_counts balanced counts⟩
      · intro token operator
        cases token <;> first | rfl | cases operator
      · intro token atom
        cases token <;> first | rfl | cases atom

/-- A product with a sum in parentheses. -/
theorem evaluate_eq_ok_product :
    let registry := Builtin.registry (Config.standard (α := Float))
    let text := "2 * (3 + 4)".toList
    (∃ value, evaluate registry Context.empty text = .ok value) ∧
      IsExpression (tokensOf registry text) := by
  intro registry text
  obtain ⟨value, evaluated⟩ : ∃ value, evaluate registry Context.empty text = .ok value :=
    exists_value_of_isOk (by decide +kernel)
  have separated : Separated (tokensOf registry text) := by decide +kernel
  exact ⟨⟨value, evaluated⟩, (evaluate_eq_ok evaluated).2.2 separated⟩

/-- Operands side by side can have a value without being an expression: the operator behind
them is applied to both. -/
theorem evaluate_side_by_side :
    let registry := Builtin.registry (Config.standard (α := Float))
    let text := "1 2 +".toList
    (∃ value, evaluate registry Context.empty text = .ok value) ∧
      ¬ IsExpression (tokensOf registry text) := by
  intro registry text
  exact ⟨exists_value_of_isOk (by decide +kernel), by decide +kernel⟩

end Calculator.Expression
