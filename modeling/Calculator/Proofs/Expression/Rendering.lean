import Calculator.Expression.Builtin
import Calculator.Number.Double
import Calculator.Proofs.Expression.Spacing
import Calculator.Proofs.Expression.Tree

/-!
Renderings of an expression and their value.

`Rendering` says which words are a way to write an expression: parentheses may be left
out where the levels of the operators make them unnecessary. `evaluate_rendering` is the
main statement: however an expression is written, its value is that of the tree.

The invariant of the conversion is `Converts`. The words of an operand send part of its
postfix order to the output and leave the rest waiting, on top of what waited before; and
whatever they leave waiting binds at least as tightly as the operand itself. So the next
operator releases all of it, and nothing below.
-/

namespace Calculator.Expression

variable {α : Type}

/-! ### How an expression is written -/

/-- How the words of an expression are put together at the outside. -/
inductive Form where
  | atom
  | group
  | call
  | application
  | operation (symbol : List Char)

/-- How tightly an expression holds together. A function in front of its operand does like
a unary operator; atoms and what ends in a parenthesis of its own do tighter than every
operator. -/
def Form.level (registry : Registry α) : Form → Nat
  | .operation symbol => (registry.binaryPrecedence symbol).level
  | .application => Precedence.unary.level
  | .atom | .group | .call => Precedence.unary.level + 1

/-- May the left operand of an operator stand without parentheses? -/
def FitsLeft (registry : Registry α) (symbol : List Char) (operand : Form) : Prop :=
  let level := (registry.binaryPrecedence symbol).level
  level < operand.level registry ∨ level = operand.level registry ∧ symbol ≠ ['^']

instance (registry : Registry α) (symbol : List Char) (operand : Form) :
    Decidable (FitsLeft registry symbol operand) := by
  unfold FitsLeft; infer_instance

/-- May the right operand of an operator stand without parentheses? An operation may if it
binds tighter, or equally tight and groups from the right. -/
def FitsRight (registry : Registry α) (symbol : List Char) : Form → Prop
  | .operation inner =>
      let level := (registry.binaryPrecedence symbol).level
      level < (registry.binaryPrecedence inner).level ∨
        level = (registry.binaryPrecedence inner).level ∧ inner = ['^']
  | _ => True

instance (registry : Registry α) (symbol : List Char) (operand : Form) :
    Decidable (FitsRight registry symbol operand) := by
  unfold FitsRight; split <;> infer_instance

/-- May the operand of a function stand without parentheses? Parentheses around it make the
application a call. -/
def Form.isOperand : Form → Bool
  | .atom | .call | .application => true
  | .group | .operation _ => false

/-- The word is no parenthesis. -/
def IsName (word : List Char) : Prop :=
  word ≠ ['('] ∧ word ≠ [')']

instance (word : List Char) : Decidable (IsName word) := by
  unfold IsName; infer_instance

/-- The ways to write an expression in words. -/
inductive Rendering [Numeral α] (registry : Registry α) :
    Tree α → Form → List (List Char) → Prop where
  | number {word : List Char} {value : α} : IsName word → Numeral.read? word = some value →
      Rendering registry (.number value) .atom [word]
  | identifier {name : List Char} : IsName name → Numeral.read? (α := α) name = none →
      registry.isBinary name = false → registry.isUnary name = false →
      Rendering registry (.identifier name) .atom [name]
  | group {expression : Tree α} {form : Form} {words : List (List Char)} :
      Rendering registry expression form words →
      Rendering registry expression .group (['('] :: words ++ [[')']])
  | call {symbol : List Char} {operand : Tree α} {form : Form} {words : List (List Char)} :
      IsName symbol → registry.isUnary symbol = true →
      Rendering registry operand form words →
      Rendering registry (.function symbol operand) .call (symbol :: ['('] :: words ++ [[')']])
  | application {symbol : List Char} {operand : Tree α} {form : Form}
      {words : List (List Char)} : IsName symbol → registry.isUnary symbol = true →
      form.isOperand = true → Rendering registry operand form words →
      Rendering registry (.function symbol operand) .application (symbol :: words)
  | operation {symbol : List Char} {left right : Tree α} {leftForm rightForm : Form}
      {leftWords rightWords : List (List Char)} : registry.isBinary symbol = true →
      FitsLeft registry symbol leftForm → FitsRight registry symbol rightForm →
      Rendering registry left leftForm leftWords →
      Rendering registry right rightForm rightWords →
      Rendering registry (.operator symbol left right) (.operation symbol)
        (leftWords ++ symbol :: rightWords)

variable {registry : Registry α}

/-! ### Releasing what waits -/

theorem isReleasedBy_iff {symbol : List Char} {entry : Pending} {precedence : Precedence}
    (atEntry : entry.precedence? registry = some precedence) :
    isReleasedBy registry symbol entry = true ↔
      (registry.binaryPrecedence symbol).level < precedence.level ∨
        (registry.binaryPrecedence symbol).level = precedence.level ∧ symbol ≠ ['^'] := by
  simp [isReleasedBy, atEntry, groupsFromLeft]

/-- An operator releases all that its left operand left waiting. -/
theorem isReleasedBy_of_fitsLeft {symbol : List Char} {form : Form} {entry : Pending}
    {precedence : Precedence} (fits : FitsLeft registry symbol form)
    (atEntry : entry.precedence? registry = some precedence)
    (bound : form.level registry ≤ precedence.level) :
    isReleasedBy registry symbol entry = true := by
  rw [isReleasedBy_iff atEntry]
  rcases fits with tighter | ⟨same, fromLeft⟩
  · exact .inl (Nat.lt_of_lt_of_le tighter bound)
  · rcases Nat.lt_or_eq_of_le bound with less | equal
    · exact .inl (same ▸ less)
    · exact .inr ⟨same.trans equal, fromLeft⟩

/-- What an operator could release is no group. -/
theorem group_not_mem_of_level {waiting : List Pending} {level : Nat}
    (bound : ∀ entry ∈ waiting, ∃ precedence, entry.precedence? registry = some precedence ∧
      level ≤ precedence.level) : Pending.group ∉ waiting := by
  intro mem
  obtain ⟨precedence, atGroup, -⟩ := bound .group mem
  cases atGroup

theorem closeGroup?_cons {entry : Pending} (noGroup : entry ≠ .group) (pending : List Pending) :
    closeGroup? (entry :: pending) =
      (closeGroup? pending).map fun parts => (entry :: parts.1, parts.2) := by
  cases entry with
  | group => exact absurd rfl noGroup
  | operator symbol => rfl
  | function symbol => rfl

/-- Closing a group releases what waits in it. -/
theorem closeGroup?_append {waiting : List Pending} (noGroup : Pending.group ∉ waiting)
    (pending : List Pending) : closeGroup? (waiting ++ .group :: pending) =
      (closeGroup? (.group :: pending)).map fun parts => (waiting ++ parts.1, parts.2) := by
  induction waiting with
  | nil => simp
  | cons entry waiting ih =>
      have other : entry ≠ .group := fun same => noGroup (same ▸ List.mem_cons_self)
      rw [List.cons_append, closeGroup?_cons other, ih (List.not_mem_of_not_mem_cons noGroup),
        Option.map_map]
      rfl

/-- Is the latest waiting entry something else than a function? -/
def NoFunction (pending : List Pending) : Prop :=
  ∀ symbol, pending.head? ≠ some (.function symbol)

theorem closeGroup?_group {pending : List Pending} (noFunction : NoFunction pending) :
    closeGroup? (.group :: pending) = some ([], pending) := by
  cases pending with
  | nil => rfl
  | cons entry pending =>
      cases entry with
      | group => rfl
      | operator symbol => rfl
      | function symbol => exact absurd rfl (noFunction symbol)

/-- The stacks on which an operand of a form is converted as a whole: a function on top
would take a group for itself, and what an operator releases would miss its operand. -/
def Accepts (registry : Registry α) (pending : List Pending) : Form → Prop
  | .group => NoFunction pending
  | .operation symbol => NoFunction pending ∧
      ∀ entry, pending.head? = some entry → isReleasedBy registry symbol entry = false
  | _ => True

theorem accepts_of_noFunction {pending : List Pending} {form : Form}
    (noFunction : NoFunction pending) (keeps : ∀ symbol, form = .operation symbol →
      ∀ entry, pending.head? = some entry → isReleasedBy registry symbol entry = false) :
    Accepts registry pending form := by
  cases form with
  | group => exact noFunction
  | operation symbol => exact ⟨noFunction, keeps symbol rfl⟩
  | atom => trivial
  | call => trivial
  | application => trivial

theorem accepts_of_isOperand {pending : List Pending} {form : Form}
    (operand : form.isOperand = true) : Accepts registry pending form := by
  cases form with
  | group => cases operand
  | operation symbol => cases operand
  | atom => trivial
  | call => trivial
  | application => trivial

theorem accepts_nil (form : Form) : Accepts registry [] form := by
  apply accepts_of_noFunction
  · intro symbol same
    cases same
  · intro symbol _ entry atHead
    cases atHead

theorem accepts_group {pending : List Pending} (form : Form) :
    Accepts registry (.group :: pending) form := by
  apply accepts_of_noFunction
  · intro symbol same
    cases same
  · intro symbol _ entry atHead
    cases atHead
    rfl

/-- Behind an operator, what may stand there without parentheses is converted as a
whole. -/
theorem accepts_of_fitsRight {pending : List Pending} {symbol : List Char} {form : Form}
    (fits : FitsRight registry symbol form) :
    Accepts registry (.operator symbol :: pending) form := by
  apply accepts_of_noFunction
  · intro function same
    cases same
  · rintro inner rfl entry atHead
    cases atHead
    rw [Bool.eq_false_iff, Ne, isReleasedBy_iff rfl]
    simp only [FitsRight] at fits
    rintro (tighter | ⟨same, fromLeft⟩)
    · omega
    · rcases fits with below | ⟨-, fromRight⟩
      · omega
      · exact fromLeft fromRight

/-- Where an operation is converted as a whole, so is its left operand: what the operator
of the operand would release, the one behind it would release as well. -/
theorem Accepts.of_fitsLeft {pending : List Pending} {symbol : List Char} {form : Form}
    (accepts : Accepts registry pending (.operation symbol))
    (fits : FitsLeft registry symbol form) : Accepts registry pending form := by
  obtain ⟨noFunction, keeps⟩ := accepts
  apply accepts_of_noFunction noFunction
  rintro inner rfl entry atHead
  have kept := keeps entry atHead
  cases atEntry : entry.precedence? registry with
  | none => simp [isReleasedBy, atEntry]
  | some precedence =>
      rw [Bool.eq_false_iff, Ne, isReleasedBy_iff atEntry] at kept ⊢
      simp only [FitsLeft, Form.level] at fits
      rintro (tighter | ⟨same, -⟩)
      · omega
      · rcases fits with below | ⟨equal, fromLeft⟩
        · omega
        · exact kept (.inr ⟨equal.trans same, fromLeft⟩)

/-! ### Levels -/

theorem Precedence.level_le_unary (precedence : Precedence) :
    precedence.level ≤ Precedence.unary.level := by
  cases precedence <;> decide

/-- Only operations bind less tightly than a function in front of its operand. -/
theorem Form.unary_le_level {form : Form} (noOperation : ∀ symbol, form ≠ .operation symbol) :
    Precedence.unary.level ≤ form.level registry := by
  cases form with
  | operation symbol => exact absurd rfl (noOperation symbol)
  | application => exact Nat.le_refl _
  | atom => exact Nat.le_succ _
  | group => exact Nat.le_succ _
  | call => exact Nat.le_succ _

theorem level_of_isOperand {form : Form} (operand : form.isOperand = true) :
    Precedence.unary.level ≤ form.level registry := by
  apply Form.unary_le_level
  rintro symbol rfl
  cases operand

theorem level_of_fitsRight {symbol : List Char} {form : Form}
    (fits : FitsRight registry symbol form) :
    (registry.binaryPrecedence symbol).level ≤ form.level registry := by
  by_cases operation : ∃ inner, form = .operation inner
  · obtain ⟨inner, rfl⟩ := operation
    rcases fits with tighter | ⟨same, -⟩
    · exact Nat.le_of_lt tighter
    · exact Nat.le_of_eq same
  · exact (Precedence.level_le_unary _).trans
      (Form.unary_le_level fun inner same => operation ⟨inner, same⟩)

/-! ### The words as tokens -/

namespace Registry

theorem isBinary_iff {symbol : List Char} :
    registry.isBinary symbol = true ↔ symbol ∈ registry.binary.symbols := by
  simp [isBinary, get?, table, OperatorTable.find?, OperatorTable.symbols]

theorem isUnary_iff {symbol : List Char} :
    registry.isUnary symbol = true ↔ symbol ∈ registry.unary.symbols := by
  simp [isUnary, get?, table, OperatorTable.find?, OperatorTable.symbols]

/-- No registered symbol reads as a number. -/
def HasNoNumerals [Numeral α] (registry : Registry α) : Prop :=
  ∀ symbol ∈ registry.binary.symbols ++ registry.unary.symbols,
    Numeral.read? (α := α) symbol = none

instance [Numeral α] (registry : Registry α) : Decidable registry.HasNoNumerals := by
  unfold HasNoNumerals; infer_instance

end Registry

variable [Numeral α]

theorem classify_number {word : List Char} {value : α} (isName : IsName word)
    (read : Numeral.read? word = some value) (followsOperand : Bool) :
    classify registry followsOperand word = .number value := by
  rw [classify, if_neg isName.1, if_neg isName.2, read]

theorem classify_identifier {name : List Char} (isName : IsName name)
    (unread : Numeral.read? (α := α) name = none) (notBinary : registry.isBinary name = false)
    (notUnary : registry.isUnary name = false) (followsOperand : Bool) :
    classify registry followsOperand name = .identifier name := by
  rw [classify, if_neg isName.1, if_neg isName.2, unread, notBinary, notUnary]

/-- Where an operand may begin, a symbol that can stand in front of one does. -/
theorem classify_function {symbol : List Char} (isName : IsName symbol)
    (unary : registry.isUnary symbol = true) (noNumerals : registry.HasNoNumerals) :
    classify registry false symbol = .function symbol := by
  have unread := noNumerals symbol (List.mem_append_right _ (Registry.isUnary_iff.mp unary))
  rw [classify, if_neg isName.1, if_neg isName.2, unread, unary]
  cases registry.isBinary symbol with
  | true => rfl
  | false => rfl

/-- Behind an operand, a symbol that can stand between two of them does. -/
theorem classify_operator_of_unread {symbol : List Char} (isName : IsName symbol)
    (binary : registry.isBinary symbol = true)
    (unread : Numeral.read? (α := α) symbol = none) :
    classify registry true symbol = .operator symbol := by
  rw [classify, if_neg isName.1, if_neg isName.2, unread, binary]
  cases registry.isUnary symbol with
  | true => rfl
  | false => rfl

theorem classify_operator {symbol : List Char} (isName : IsName symbol)
    (binary : registry.isBinary symbol = true) (noNumerals : registry.HasNoNumerals) :
    classify registry true symbol = .operator symbol :=
  classify_operator_of_unread isName binary
    (noNumerals symbol (List.mem_append_left _ (Registry.isBinary_iff.mp binary)))

omit [Numeral α] in
/-- A binary symbol without parentheses in it is none. -/
theorem isName_of_isBinary {symbol : List Char} (binary : registry.isBinary symbol = true)
    (plain : registry.HasPlainSymbols) : IsName symbol := by
  have noParenthesis := plain symbol (Registry.isBinary_iff.mp binary)
  constructor
  · rintro rfl
    cases (noParenthesis '(' List.mem_cons_self).2
  · rintro rfl
    cases (noParenthesis ')' List.mem_cons_self).2

/-! ### Converting the words of an operand -/

omit [Numeral α] in
theorem map_append_map {ε : Type} (result : Except ε (List (Token α)))
    (first second : List (Token α)) :
    (result.map (second ++ ·)).map (first ++ ·) = result.map (first ++ second ++ ·) := by
  cases result with
  | error failure => rfl
  | ok tokens => simp [Except.map]

/-- What converting the words of an operand does to a stack: one part of the postfix order
goes out, the rest waits on top of the stack, and what waits binds at least as tightly as
the operand. -/
def Converts (registry : Registry α) (pending : List Pending) (form : Form)
    (expression : Tree α) (words : List (List Char)) : Prop :=
  ∃ output waiting, output ++ waiting.map Pending.token = expression.postorder ∧
    (∀ entry ∈ waiting, ∃ precedence, entry.precedence? registry = some precedence ∧
      form.level registry ≤ precedence.level) ∧
    ∀ rest, convert registry pending (classifyWords registry false (words ++ rest)) =
      (convert registry (waiting ++ pending) (classifyWords registry true rest)).map (output ++ ·)

namespace Converts

variable {pending : List Pending} {form : Form} {expression : Tree α}
  {words : List (List Char)}

/-- A token that goes out at once. -/
theorem atom {word : List Char} {token : Token α} (symbols : expression.postorder = [token])
    (classified : classify registry false word = token) (operand : token.endsOperand = true)
    (passes : ∀ pending rest, convert registry pending (token :: rest) =
      (convert registry pending rest).map (token :: ·)) :
    Converts registry pending .atom expression [word] := by
  refine ⟨[token], [], symbols.symm, by simp, ?_⟩
  intro rest
  rw [List.singleton_append, classifyWords, classified, operand, passes]
  rfl

/-- Parentheses around an operand send all of it to the output, and with it what closing
them releases below. -/
theorem close {followsOperand : Bool} {released kept : List Pending}
    (inner : Converts registry (.group :: pending) form expression words)
    (closing : closeGroup? (.group :: pending) = some (released, kept))
    (rest : List (List Char)) :
    convert registry pending
        (classifyWords registry followsOperand (['('] :: words ++ [[')']] ++ rest)) =
      (convert registry kept (classifyWords registry true rest)).map
        (expression.postorder ++ released.map Pending.token ++ ·) := by
  obtain ⟨output, waiting, parts, bound, step⟩ := inner
  have opens : classifyWords registry followsOperand (['('] :: words ++ [[')']] ++ rest) =
      .openParen :: classifyWords registry false (words ++ [')'] :: rest) := by
    simp only [List.cons_append, List.append_assoc, List.nil_append]
    rfl
  have closes : classifyWords registry true ([')'] :: rest) =
      .closeParen :: classifyWords registry true rest := rfl
  rw [opens, convert, step, closes, convert,
    closeGroup?_append (group_not_mem_of_level bound), closing]
  dsimp only [Option.map_some]
  rw [map_append_map, List.map_append, ← List.append_assoc, parts]

theorem group (inner : Converts registry (.group :: pending) form expression words)
    (accepts : Accepts registry pending .group) :
    Converts registry pending .group expression (['('] :: words ++ [[')']]) := by
  refine ⟨expression.postorder, [], List.append_nil _, by simp, ?_⟩
  intro rest
  rw [inner.close (closeGroup?_group accepts), List.map_nil, List.append_nil]
  rfl

theorem call {symbol : List Char}
    (inner : Converts registry (.group :: .function symbol :: pending) form expression words)
    (classified : classify registry false symbol = .function symbol) :
    Converts registry pending .call (.function symbol expression)
      (symbol :: ['('] :: words ++ [[')']]) := by
  refine ⟨expression.postorder ++ [.function symbol], [], List.append_nil _, by simp, ?_⟩
  intro rest
  have starts : classifyWords registry false (symbol :: ['('] :: words ++ [[')']] ++ rest) =
      .function symbol ::
        classifyWords registry false (['('] :: words ++ [[')']] ++ rest) := by
    rw [List.cons_append, List.cons_append, classifyWords, classified]
    rfl
  rw [starts, convert, inner.close rfl]
  rfl

theorem application {symbol : List Char}
    (inner : Converts registry (.function symbol :: pending) form expression words)
    (classified : classify registry false symbol = .function symbol)
    (tight : Precedence.unary.level ≤ form.level registry) :
    Converts registry pending .application (.function symbol expression) (symbol :: words) := by
  obtain ⟨output, waiting, parts, bound, step⟩ := inner
  refine ⟨output, waiting ++ [.function symbol], ?_, ?_, ?_⟩
  · rw [List.map_append, ← List.append_assoc, parts]
    rfl
  · intro entry mem
    rcases List.mem_append.mp mem with inOperand | atFunction
    · obtain ⟨precedence, atEntry, above⟩ := bound entry inOperand
      exact ⟨precedence, atEntry, tight.trans above⟩
    · obtain rfl := List.mem_singleton.mp atFunction
      exact ⟨.unary, rfl, Nat.le_refl _⟩
  · intro rest
    rw [List.cons_append, classifyWords, classified, convert, Token.endsOperand, step,
      List.append_assoc]
    rfl

theorem operation {symbol : List Char} {left right : Tree α} {leftForm rightForm : Form}
    {leftWords rightWords : List (List Char)}
    (atLeft : Converts registry pending leftForm left leftWords)
    (atRight : Converts registry (.operator symbol :: pending) rightForm right rightWords)
    (classified : classify registry true symbol = .operator symbol)
    (fits : FitsLeft registry symbol leftForm)
    (accepts : Accepts registry pending (.operation symbol))
    (tight : (registry.binaryPrecedence symbol).level ≤ rightForm.level registry) :
    Converts registry pending (.operation symbol) (.operator symbol left right)
      (leftWords ++ symbol :: rightWords) := by
  obtain ⟨output, waiting, parts, bound, step⟩ := atLeft
  obtain ⟨output', waiting', parts', bound', step'⟩ := atRight
  -- the operator releases exactly what the left operand left waiting
  have releases : (waiting ++ pending).takeWhile (isReleasedBy registry symbol) = waiting ∧
      (waiting ++ pending).dropWhile (isReleasedBy registry symbol) = pending := by
    have all : ∀ entry ∈ waiting, isReleasedBy registry symbol entry = true := by
      intro entry mem
      obtain ⟨precedence, atEntry, above⟩ := bound entry mem
      exact isReleasedBy_of_fitsLeft fits atEntry above
    rw [List.takeWhile_append_of_pos all, List.dropWhile_append_of_pos all]
    cases pending with
    | nil => simp
    | cons entry pending => simp [accepts.2 entry rfl]
  refine ⟨left.postorder ++ output', waiting' ++ [.operator symbol], ?_, ?_, ?_⟩
  · rw [List.map_append, List.append_assoc, ← List.append_assoc output', parts',
      Tree.postorder, List.append_assoc]
    rfl
  · intro entry mem
    rcases List.mem_append.mp mem with inRight | atOperator
    · obtain ⟨precedence, atEntry, above⟩ := bound' entry inRight
      exact ⟨precedence, atEntry, tight.trans above⟩
    · obtain rfl := List.mem_singleton.mp atOperator
      exact ⟨_, rfl, Nat.le_refl _⟩
  · intro rest
    have next : classifyWords registry true (symbol :: (rightWords ++ rest)) =
        .operator symbol :: classifyWords registry false (rightWords ++ rest) := by
      rw [classifyWords, classified]
      rfl
    rw [List.append_assoc, List.cons_append, step, next, convert, releases.1,
      releases.2, step', map_append_map, map_append_map, parts, List.append_assoc]
    rfl

end Converts

/-- Every rendering of an expression is converted as a whole, wherever its form may
stand. -/
theorem Rendering.converts {expression : Tree α} {form : Form} {words : List (List Char)}
    (rendering : Rendering registry expression form words) (plain : registry.HasPlainSymbols)
    (noNumerals : registry.HasNoNumerals) {pending : List Pending}
    (accepts : Accepts registry pending form) :
    Converts registry pending form expression words := by
  induction rendering generalizing pending with
  | number isName read =>
      exact .atom rfl (classify_number isName read false) rfl fun _ _ => rfl
  | identifier isName unread notBinary notUnary =>
      exact .atom rfl (classify_identifier isName unread notBinary notUnary false) rfl
        fun _ _ => rfl
  | group _ ih => exact (ih (accepts_group _)).group accepts
  | call isName unary _ ih =>
      exact (ih (accepts_group _)).call (classify_function isName unary noNumerals)
  | application isName unary operand _ ih =>
      exact (ih (accepts_of_isOperand operand)).application
        (classify_function isName unary noNumerals) (level_of_isOperand operand)
  | operation binary fitsLeft fitsRight _ _ ihLeft ihRight =>
      exact .operation (ihLeft (accepts.of_fitsLeft fitsLeft))
        (ihRight (accepts_of_fitsRight fitsRight))
        (classify_operator (isName_of_isBinary binary plain) binary noNumerals) fitsLeft accepts
        (level_of_fitsRight fitsRight)

/-! ### The value of a rendering -/

/-- The postfix order of a rendering is that of the tree. -/
theorem Rendering.postfixOrder {expression : Tree α} {form : Form} {text : List Char}
    (rendering : Rendering registry expression form (Text.words text))
    (plain : registry.HasPlainSymbols) (noNumerals : registry.HasNoNumerals)
    (whole : ∀ word ∈ Text.words text, registry.KeepsWhole word) :
    postfixOrder registry text = .ok expression.postorder := by
  obtain ⟨output, waiting, parts, bound, step⟩ :=
    rendering.converts plain noNumerals (accepts_nil form)
  have run := step []
  rw [List.append_nil, List.append_nil, classifyWords, convert,
    if_neg (group_not_mem_of_level bound)] at run
  rw [Expression.postfixOrder, tokensOf, Registry.words_spaced_of_whole plain whole, run, ← parts]
  rfl

/-- An expression has the value of its tree, however it is written. The words of the text
are a rendering of the tree, and the binary symbols leave them whole; then evaluating the
text gives the value of the tree, or fails as the tree does. -/
theorem evaluate_rendering {expression : Tree α} {form : Form} {text : List Char}
    (plain : registry.HasPlainSymbols) (noNumerals : registry.HasNoNumerals)
    (rendering : Rendering registry expression form (Text.words text))
    (whole : ∀ word ∈ Text.words text, registry.KeepsWhole word) (context : Context α) :
    evaluate registry context text = expression.value registry context := by
  rw [evaluate, rendering.postfixOrder plain noNumerals whole]
  exact runPostfix_postorder expression

theorem evaluate_rendering_difference :
    evaluate (Builtin.registry Config.standard) (Context.ofBindings [(['x'], 5), (['y'], 3)])
        "x - y ^ - 2".toList =
      (Tree.operator ['-'] (.identifier ['x']) (.operator ['^'] (.identifier ['y'])
        (.function ['-'] (.number (Double.ofLiteral ⟨false, .decimal 2 0⟩))))).value
        (Builtin.registry Config.standard)
        (Context.ofBindings [(['x'], 5), (['y'], 3)]) := by
  let registry := Builtin.registry (Config.standard (α := Float))
  have name : ∀ c ∈ ['x', 'y'], Rendering registry (.identifier [c]) .atom [[c]] := by
    intro c mem
    refine .identifier ?_ ?_ ?_ ?_ <;> revert c <;> decide +kernel
  have power : Rendering registry (.operator ['^'] (.identifier ['y'])
      (.function ['-'] (.number (Double.ofLiteral ⟨false, .decimal 2 0⟩))))
      (.operation ['^']) [['y'], ['^'], ['-'], ['2']] :=
    .operation (by decide +kernel) (by decide +kernel) (by decide +kernel)
      (name 'y' (by decide))
      (.application (by decide) (by decide +kernel) rfl (.number (by decide) rfl))
  have difference : Rendering registry (.operator ['-'] (.identifier ['x']) _)
      (.operation ['-']) [['x'], ['-'], ['y'], ['^'], ['-'], ['2']] :=
    .operation (by decide +kernel) (by decide +kernel) (by decide +kernel)
      (name 'x' (by decide)) power
  have words : Text.words "x - y ^ - 2".toList =
      [['x'], ['-'], ['y'], ['^'], ['-'], ['2']] := by
    decide +kernel
  exact evaluate_rendering (by decide +kernel) (by decide +kernel) (words ▸ difference)
    (by decide +kernel) _

/-- The condition on the words is needed: the minus sign cuts the number `1e-5`, and its
parts have no value. -/
theorem evaluate_cut_number :
    (Builtin.registry (Config.standard (α := Float))).HasPlainSymbols ∧
    (Builtin.registry (Config.standard (α := Float))).HasNoNumerals ∧
    Rendering (Builtin.registry Config.standard)
      (.number (Double.ofLiteral ⟨false, .decimal 1 (-5)⟩)) .atom (Text.words "1e-5".toList) ∧
    evaluate (Builtin.registry Config.standard) Context.empty "1e-5".toList ≠
      (Tree.number (Double.ofLiteral ⟨false, .decimal 1 (-5)⟩)).value
        (Builtin.registry Config.standard) Context.empty := by
  refine ⟨by decide +kernel, by decide +kernel, ?_, ?_⟩
  · have words : Text.words "1e-5".toList = ["1e-5".toList] := by decide +kernel
    rw [words]
    exact .number (by decide) rfl
  · intro same
    have failed : (evaluate (Builtin.registry (Config.standard (α := Float))) Context.empty
        "1e-5".toList).toOption = none := by decide +kernel
    rw [same] at failed
    cases failed

end Calculator.Expression
