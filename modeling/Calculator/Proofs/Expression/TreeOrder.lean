import Calculator.Proofs.Expression.Assembly

/-!
The postfix order of an expression is that of a tree.

Precedences only decide how an expression is put together; whatever they are, every
expression of the grammar has a postfix order, and this is the postfix order of a tree
(`IsExpression.exists_tree`). Where an operand has just ended, the output so far consists of
the operands of the waiting operators, one for each, and the operand that has just ended. Every
token keeps this (`Prepared`), so whatever is released finds its operands.
-/

namespace Calculator.Expression

variable {α : Type} {registry : Registry α}

/-! ### Operands for what goes out -/

def Pending.isOperator : Pending → Bool
  | .operator _ => true
  | .group | .function _ => false

/-- Entries that go out are applied to the latest operands of the output. With an operand
for each operator and one more, none of them runs short. -/
theorem exists_forest_of_released {released : List Pending} (noGroup : .group ∉ released)
    {forest : List (Tree α)} {height : Nat}
    (enough : forest.length = released.countP Pending.isOperator + (height + 1)) :
    ∃ trees : List (Tree α), trees.length = height + 1 ∧
      sequence trees = sequence forest ++ released.map Pending.token := by
  induction released generalizing forest with
  | nil => exact ⟨forest, by simpa using enough, by simp⟩
  | cons entry released ih =>
      have plain := List.not_mem_of_not_mem_cons noGroup
      cases entry with
      | group => exact absurd List.mem_cons_self noGroup
      | function symbol =>
          obtain ⟨operand, forest, rfl⟩ := List.exists_cons_of_length_pos (l := forest) (by omega)
          have others : (Tree.function symbol operand :: forest).length =
              released.countP Pending.isOperator + (height + 1) := by
            simpa [List.countP_cons, Pending.isOperator] using enough
          obtain ⟨trees, length, whole⟩ := ih plain others
          refine ⟨trees, length, ?_⟩
          rw [whole, sequence_cons, sequence_cons, Tree.postorder]
          simp [Pending.token]
      | operator symbol =>
          rw [List.countP_cons_of_pos rfl] at enough
          obtain ⟨right, forest, rfl⟩ := List.exists_cons_of_length_pos (l := forest) (by omega)
          rw [List.length_cons] at enough
          obtain ⟨left, forest, rfl⟩ := List.exists_cons_of_length_pos (l := forest) (by omega)
          have others : (Tree.operator symbol left right :: forest).length =
              released.countP Pending.isOperator + (height + 1) := by
            simp only [List.length_cons] at enough ⊢
            omega
          obtain ⟨trees, length, whole⟩ := ih plain others
          refine ⟨trees, length, ?_⟩
          rw [whole, sequence_cons, sequence_cons, sequence_cons, Tree.postorder]
          simp [Pending.token]

/-- The tokens still to come have a postfix order, and with the operands that are already there
it is that of one tree. -/
def BuildsTree (registry : Registry α) (forest : List (Tree α)) (pending : List Pending)
    (tokens : List (Token α)) : Prop :=
  ∃ (output : List (Token α)) (tree : Tree α),
    convert registry pending tokens = .ok output ∧ tree.postorder = sequence forest ++ output

/-- What has to be there for the tokens still to come: the groups they close, and an operand for
every operator that waits, with one more where an operand has just ended. -/
structure Prepared (followsOperand : Bool) (forest : List (Tree α)) (pending : List Pending)
    (tokens : List (Token α)) : Prop where
  closes : Closes (pending.count .group) tokens
  operands : forest.length = pending.countP Pending.isOperator + followsOperand.toNat

variable {forest after : List (Tree α)} {pending waiting : List Pending} {token : Token α}
  {rest : List (Token α)}

/-! ### One token -/

/-- A token lets entries out, and these are applied to operands. -/
theorem BuildsTree.step {moved : List (Token α)} (builds : BuildsTree registry after waiting rest)
    (converted : convert registry pending (token :: rest) =
      (convert registry waiting rest).map (moved ++ ·))
    (applied : sequence after = sequence forest ++ moved) :
    BuildsTree registry forest pending (token :: rest) := by
  obtain ⟨output, tree, done, whole⟩ := builds
  refine ⟨moved ++ output, tree, ?_, ?_⟩
  · rw [converted, done, Except.map]
  · rw [whole, applied, List.append_assoc]

/-- A number or a name is a tree of its own. -/
theorem BuildsTree.atom {leaf : Tree α} (single : leaf.postorder = [token])
    (isAtom : token.isAtom = true) (builds : BuildsTree registry (leaf :: forest) pending rest) :
    BuildsTree registry forest pending (token :: rest) := by
  have converted : convert registry pending (token :: rest) =
      (convert registry pending rest).map ([token] ++ ·) := by
    cases token with
    | number value => rfl
    | identifier name => rfl
    | operator symbol | function symbol => cases isAtom
    | openParen | closeParen => cases isAtom
  refine builds.step converted ?_
  rw [sequence_cons, single]

theorem Prepared.atom (leaf : Tree α) (isAtom : token.isAtom = true)
    (prepared : Prepared false forest pending (token :: rest)) :
    Prepared true (leaf :: forest) pending rest := by
  obtain ⟨closes, operands⟩ := prepared
  refine ⟨?_, congrArg (· + 1) operands⟩
  cases token with
  | number value | identifier name => exact closes
  | operator symbol | function symbol => cases isAtom
  | openParen | closeParen => cases isAtom

/-- A function or an opening parenthesis waits for the operand that follows. -/
theorem BuildsTree.setAside {entry : Pending} (plain : entry.isOperator = false)
    (builds : BuildsTree registry forest (entry :: pending) rest) :
    BuildsTree registry forest pending (entry.token :: rest) := by
  cases entry with
  | operator symbol => cases plain
  | group | function symbol => exact builds

theorem Prepared.setAside {entry : Pending} (plain : entry.isOperator = false)
    (prepared : Prepared false forest pending (entry.token :: rest)) :
    Prepared false forest (entry :: pending) rest := by
  obtain ⟨closes, operands⟩ := prepared
  refine ⟨?_, ?_⟩
  · cases entry with
    | operator symbol => cases plain
    | group | function symbol => simpa [Closes, Pending.token] using closes
  · rw [List.countP_cons_of_neg (by simp [plain]), operands]

/-- An operator lets out what binds at least as tightly, and then waits with the operand that
has been put together for it. -/
theorem Prepared.operator {symbol : List Char}
    (prepared : Prepared true forest pending (.operator symbol :: rest)) :
    ∃ after : List (Tree α),
      Prepared false after
        (.operator symbol :: pending.dropWhile (isReleasedBy registry symbol)) rest ∧
      sequence after = sequence forest ++
        (pending.takeWhile (isReleasedBy registry symbol)).map Pending.token := by
  obtain ⟨closes, operands⟩ := prepared
  let released := pending.takeWhile (isReleasedBy registry symbol)
  let kept := pending.dropWhile (isReleasedBy registry symbol)
  have parts : released ++ kept = pending := List.takeWhile_append_dropWhile
  have both : forest.length = released.countP Pending.isOperator +
      (kept.countP Pending.isOperator + 1) := by
    rw [← parts, List.countP_append] at operands
    exact operands.trans (Nat.add_assoc _ _ _)
  obtain ⟨after, length, applied⟩ :=
    exists_forest_of_released (group_not_mem_released symbol pending) both
  refine ⟨after, ⟨?_, ?_⟩, applied⟩
  · simpa [Closes, count_group_kept] using closes
  · rw [length, List.countP_cons_of_pos rfl]
    rfl

/-- A closing parenthesis finds its group, and lets out what waits in it. -/
theorem Prepared.closeParen (prepared : Prepared true forest pending (.closeParen :: rest)) :
    ∃ (released kept : List Pending) (after : List (Tree α)),
      closeGroup? pending = some (released, kept) ∧ Prepared true after kept rest ∧
      sequence after = sequence forest ++ released.map Pending.token := by
  obtain ⟨closes, operands⟩ := prepared
  cases closed : closeGroup? pending with
  | none =>
      rw [List.count_eq_zero.mpr (closeGroup?_eq_none_iff.mp closed)] at closes
      cases closes
  | some parts =>
      obtain ⟨released, kept⟩ := parts
      obtain ⟨plain, perm⟩ := perm_of_closeGroup? closed
      rw [count_group_of_closeGroup? closed] at closes
      have both : forest.length = released.countP Pending.isOperator +
          (kept.countP Pending.isOperator + 1) := by
        rw [perm.countP_eq, List.countP_cons_of_neg Bool.false_ne_true,
          List.countP_append] at operands
        exact operands.trans (Nat.add_assoc _ _ _)
      obtain ⟨after, length, applied⟩ := exists_forest_of_released plain both
      exact ⟨released, kept, after, rfl, ⟨closes, length⟩, applied⟩

/-! ### All tokens -/

/-- Tokens that take turns and for which everything is there are put together to one tree. -/
theorem buildsTree_of_alternates {tokens : List (Token α)} {followsOperand : Bool}
    (alternates : Alternates followsOperand tokens)
    (prepared : Prepared followsOperand forest pending tokens) :
    BuildsTree registry forest pending tokens := by
  induction tokens generalizing pending followsOperand forest with
  | nil =>
      obtain ⟨closes, operands⟩ := prepared
      cases alternates
      have noGroup : .group ∉ pending := List.count_eq_zero.mp closes
      obtain ⟨trees, length, whole⟩ : ∃ trees : List (Tree α), trees.length = 0 + 1 ∧
          sequence trees = sequence forest ++ pending.map Pending.token :=
        exists_forest_of_released noGroup operands
      obtain ⟨tree, rfl⟩ := List.length_eq_one_iff.mp length
      exact ⟨_, tree, if_neg noGroup, by rw [← whole]; simp [sequence]⟩
  | cons token rest ih =>
      obtain ⟨turn, others⟩ := alternates
      obtain rfl : followsOperand = !token.startsOperand := by rw [turn, Bool.not_not]
      cases token with
      | number value => exact (ih others (prepared.atom (.number value) rfl)).atom rfl rfl
      | identifier name => exact (ih others (prepared.atom (.identifier name) rfl)).atom rfl rfl
      | function symbol =>
          have next : Prepared false forest (.function symbol :: pending) rest :=
            prepared.setAside rfl
          exact (ih others next).setAside rfl
      | openParen =>
          have next : Prepared false forest (.group :: pending) rest := prepared.setAside rfl
          exact (ih others next).setAside rfl
      | operator symbol =>
          obtain ⟨after, next, applied⟩ := prepared.operator
          exact (ih others next).step (by rw [convert]) applied
      | closeParen =>
          obtain ⟨released, kept, after, closed, next, applied⟩ := prepared.closeParen
          exact (ih others next).step (by rw [convert, closed]) applied

/-- Every expression of the grammar is converted, and to the postfix order of a tree. -/
theorem IsExpression.exists_tree {tokens : List (Token α)} (expression : IsExpression tokens) :
    ∃ tree : Tree α, convert registry [] tokens = .ok tree.postorder := by
  obtain ⟨alternates, balanced⟩ := isExpression_iff.mp expression
  have prepared : Prepared false ([] : List (Tree α)) [] tokens := ⟨balanced, rfl⟩
  obtain ⟨output, tree, converted, whole⟩ : BuildsTree registry [] [] tokens :=
    buildsTree_of_alternates alternates prepared
  exact ⟨tree, whole ▸ converted⟩

end Calculator.Expression
