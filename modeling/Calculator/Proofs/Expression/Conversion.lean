import Calculator.Expression.Postfix

/-!
What the conversion to postfix order keeps.

The conversion succeeds exactly if the parentheses are balanced, and then the output holds
every token but the parentheses, once for each time it was written. Both are stated for
every stack of waiting entries: its open groups have still to be closed, and its other
entries have still to go out.
-/

namespace Calculator.Expression

open scoped List

variable {α : Type} {registry : Registry α}

/-! ### Parentheses -/

def Token.isParenthesis : Token α → Bool
  | .openParen | .closeParen => true
  | .number _ | .operator _ | .function _ | .identifier _ => false

/-- The tokens close every group they open, and `groups` more that were open before. -/
def Closes : Nat → List (Token α) → Prop
  | groups, [] => groups = 0
  | groups, .openParen :: rest => Closes (groups + 1) rest
  | 0, .closeParen :: _ => False
  | groups + 1, .closeParen :: rest => Closes groups rest
  | groups, .number _ :: rest | groups, .operator _ :: rest
  | groups, .function _ :: rest | groups, .identifier _ :: rest => Closes groups rest

instance decidableCloses : (groups : Nat) → (tokens : List (Token α)) →
    Decidable (Closes groups tokens)
  | groups, [] => inferInstanceAs (Decidable (groups = 0))
  | groups, .openParen :: rest => decidableCloses (groups + 1) rest
  | 0, .closeParen :: _ => inferInstanceAs (Decidable False)
  | groups + 1, .closeParen :: rest => decidableCloses groups rest
  | groups, .number _ :: rest | groups, .operator _ :: rest
  | groups, .function _ :: rest | groups, .identifier _ :: rest => decidableCloses groups rest

theorem Closes.append {groups later : Nat} {first second : List (Token α)}
    (closesFirst : Closes groups first) (closesSecond : Closes later second) :
    Closes (groups + later) (first ++ second) := by
  fun_induction Closes groups first with
  | case1 groups =>
      cases closesFirst
      rwa [Nat.zero_add]
  | case2 groups rest ih =>
      rw [List.cons_append, Closes, Nat.add_right_comm]
      exact ih closesFirst
  | case3 => cases closesFirst
  | case4 groups rest ih =>
      rw [List.cons_append, Nat.succ_add, Closes]
      exact ih closesFirst
  | case5 groups value rest ih => exact ih closesFirst
  | case6 groups symbol rest ih => exact ih closesFirst
  | case7 groups symbol rest ih => exact ih closesFirst
  | case8 groups name rest ih => exact ih closesFirst

/-- Every parenthesis belongs to a pair. -/
def Balanced (tokens : List (Token α)) : Prop :=
  Closes 0 tokens

instance (tokens : List (Token α)) : Decidable (Balanced tokens) :=
  inferInstanceAs (Decidable (Closes 0 tokens))

/-- The tokens that are no parentheses. -/
def symbolsOf (tokens : List (Token α)) : List (Token α) :=
  tokens.filter fun token => !token.isParenthesis

/-- The waiting entries that are applied some time, as tokens. -/
def appliedTokens (pending : List Pending) : List (Token α) :=
  (pending.filter (· ≠ .group)).map Pending.token

/-! ### Releasing what waits -/

theorem appliedTokens_append (first second : List Pending) :
    (appliedTokens (first ++ second) : List (Token α)) =
      appliedTokens first ++ appliedTokens second := by
  simp [appliedTokens]

theorem appliedTokens_eq_map {pending : List Pending} (noGroup : .group ∉ pending) :
    (appliedTokens pending : List (Token α)) = pending.map Pending.token := by
  have all : pending.filter (· ≠ .group) = pending := by
    rw [List.filter_eq_self]
    intro entry mem
    exact decide_eq_true fun same => noGroup (same ▸ mem)
  rw [appliedTokens, all]

/-- An operator releases no group. -/
theorem group_not_mem_released (symbol : List Char) (pending : List Pending) :
    .group ∉ pending.takeWhile (isReleasedBy registry symbol) := by
  intro mem
  have released := List.all_eq_true.mp List.all_takeWhile _ mem
  cases released

/-- Closing a group leaves what waited, without the group. -/
theorem perm_of_closeGroup? {pending released kept : List Pending}
    (closed : closeGroup? pending = some (released, kept)) :
    .group ∉ released ∧ pending.Perm (.group :: (released ++ kept)) := by
  fun_induction closeGroup? pending generalizing released kept with
  | case1 => cases closed
  | case2 symbol rest =>
      cases closed
      exact ⟨by simp, .rfl⟩
  | case3 rest =>
      cases closed
      exact ⟨List.not_mem_nil, .rfl⟩
  | case4 waiting rest noCall noGroup ih =>
      obtain ⟨⟨inner, outer⟩, closedRest, same⟩ := Option.map_eq_some_iff.mp closed
      cases same
      obtain ⟨innerPlain, perm⟩ := ih closedRest
      constructor
      · rintro (_ | ⟨_, mem⟩)
        · exact noGroup rfl
        · exact innerPlain mem
      · exact (perm.cons waiting).trans (.swap _ _ _)

theorem closeGroup?_eq_none_iff {pending : List Pending} :
    closeGroup? pending = none ↔ .group ∉ pending := by
  fun_induction closeGroup? pending with
  | case1 => simp
  | case2 symbol rest => simp
  | case3 rest => simp
  | case4 waiting rest noCall noGroup ih =>
      have other : .group ≠ waiting := fun same => noGroup same.symm
      simp [ih, other]

theorem appliedTokens_of_closeGroup? {pending released kept : List Pending}
    (closed : closeGroup? pending = some (released, kept)) :
    (appliedTokens pending : List (Token α)).Perm
      (released.map Pending.token ++ appliedTokens kept) := by
  obtain ⟨plain, perm⟩ := perm_of_closeGroup? closed
  rw [← appliedTokens_eq_map plain, ← appliedTokens_append]
  exact (perm.filter _).map _

theorem count_group_of_closeGroup? {pending released kept : List Pending}
    (closed : closeGroup? pending = some (released, kept)) :
    pending.count .group = kept.count .group + 1 := by
  obtain ⟨plain, perm⟩ := perm_of_closeGroup? closed
  rw [perm.count_eq, List.count_cons_self, List.count_append, List.count_eq_zero.mpr plain,
    Nat.zero_add]

theorem appliedTokens_released (symbol : List Char) (pending : List Pending) :
    (appliedTokens pending : List (Token α)) =
      (pending.takeWhile (isReleasedBy registry symbol)).map Pending.token ++
        appliedTokens (pending.dropWhile (isReleasedBy registry symbol)) := by
  rw [← appliedTokens_eq_map (group_not_mem_released symbol pending), ← appliedTokens_append,
    List.takeWhile_append_dropWhile]

/-- An operator leaves all open groups open. -/
theorem count_group_kept (symbol : List Char) (pending : List Pending) :
    (pending.dropWhile (isReleasedBy registry symbol)).count .group = pending.count .group := by
  have parts := List.takeWhile_append_dropWhile (p := isReleasedBy registry symbol) (l := pending)
  have noGroup : .group ∉ pending.takeWhile (isReleasedBy registry symbol) :=
    group_not_mem_released symbol pending
  have plain := List.count_eq_zero.mpr noGroup
  rw [← Nat.zero_add (List.count _ _), ← plain, ← List.count_append, parts]

/-! ### The conversion -/

theorem exists_of_map_eq_ok {ε β γ : Type} {f : β → γ} {result : Except ε β} {after : γ}
    (mapped : result.map f = .ok after) : ∃ value, result = .ok value ∧ f value = after := by
  cases result with
  | error failure => cases mapped
  | ok value =>
      cases mapped
      exact ⟨value, rfl, rfl⟩

/-- Without balanced parentheses there is no postfix order. -/
theorem convert_of_not_closes {pending : List Pending} {tokens : List (Token α)}
    (unbalanced : ¬ Closes (pending.count .group) tokens) :
    convert registry pending tokens = .error .operandMismatch := by
  induction tokens generalizing pending with
  | nil => exact if_pos (List.count_pos_iff.mp (Nat.pos_of_ne_zero unbalanced))
  | cons token rest ih =>
      cases token with
      | number value => rw [convert, ih unbalanced, Except.map]
      | identifier name => rw [convert, ih unbalanced, Except.map]
      | function symbol =>
          rw [convert]
          exact ih (by simpa [Closes] using unbalanced)
      | openParen =>
          rw [convert]
          exact ih (by simpa [Closes] using unbalanced)
      | operator symbol =>
          rw [convert, ih, Except.map]
          simpa [Closes, count_group_kept] using unbalanced
      | closeParen =>
          rw [convert]
          cases closed : closeGroup? pending with
          | none => rfl
          | some parts =>
              rw [count_group_of_closeGroup? closed] at unbalanced
              simp only [ih unbalanced, Except.map]

/-- What goes out early is not lost: released entries in front of an output stand for the
waiting entries they were. -/
theorem perm_of_released {β : Type} {output symbols released kept pending : List β}
    (perm : output.Perm (symbols ++ kept)) (parts : pending.Perm (released ++ kept)) :
    (released ++ output).Perm (symbols ++ pending) :=
  calc released ++ output
    _ ~ released ++ (symbols ++ kept) := perm.append_left released
    _ ~ symbols ++ (released ++ kept) := List.perm_append_comm_assoc ..
    _ ~ symbols ++ pending := parts.symm.append_left symbols

/-- With balanced parentheses there is a postfix order, and it keeps every token but the
parentheses. -/
theorem convert_of_closes {pending : List Pending} {tokens : List (Token α)}
    (balanced : Closes (pending.count .group) tokens) :
    ∃ output, convert registry pending tokens = .ok output ∧
      output.Perm (symbolsOf tokens ++ appliedTokens pending) := by
  induction tokens generalizing pending with
  | nil =>
      have noGroup : .group ∉ pending := List.count_eq_zero.mp balanced
      exact ⟨pending.map Pending.token, if_neg noGroup,
        .of_eq (appliedTokens_eq_map noGroup).symm⟩
  | cons token rest ih =>
      cases token with
      | number value =>
          obtain ⟨output, converted, perm⟩ := ih balanced
          exact ⟨.number value :: output, by rw [convert, converted, Except.map], perm.cons _⟩
      | identifier name =>
          obtain ⟨output, converted, perm⟩ := ih balanced
          exact ⟨.identifier name :: output, by rw [convert, converted, Except.map],
            perm.cons _⟩
      | function symbol =>
          have inner : Closes (List.count .group (.function symbol :: pending)) rest := by
            simpa [Closes] using balanced
          obtain ⟨output, converted, perm⟩ := ih inner
          exact ⟨output, by rw [convert, converted], perm.trans List.perm_middle⟩
      | openParen =>
          have inner : Closes (List.count .group (.group :: pending)) rest := by
            simpa [Closes] using balanced
          obtain ⟨output, converted, perm⟩ := ih inner
          exact ⟨output, by rw [convert, converted], perm⟩
      | operator symbol =>
          have inner : Closes (List.count .group
              (.operator symbol :: pending.dropWhile (isReleasedBy registry symbol))) rest := by
            simpa [Closes, count_group_kept] using balanced
          obtain ⟨output, converted, perm⟩ := ih inner
          refine ⟨_, by rw [convert, converted, Except.map], ?_⟩
          exact perm_of_released (perm.trans List.perm_middle)
            (.of_eq (appliedTokens_released symbol pending))
      | closeParen =>
          cases closed : closeGroup? pending with
          | none =>
              have noGroup := List.count_eq_zero.mpr (closeGroup?_eq_none_iff.mp closed)
              rw [noGroup] at balanced
              cases balanced
          | some parts =>
              rw [count_group_of_closeGroup? closed] at balanced
              obtain ⟨output, converted, perm⟩ := ih balanced
              refine ⟨parts.1.map Pending.token ++ output, ?_, ?_⟩
              · rw [convert, closed]
                simp only [converted, Except.map]
              · exact perm_of_released perm (appliedTokens_of_closeGroup? closed)

/-- What a postfix order says about the tokens it was made of. -/
theorem convert_eq_ok {tokens output : List (Token α)}
    (converted : convert registry [] tokens = .ok output) :
    Balanced tokens ∧ output.Perm (symbolsOf tokens) := by
  by_cases balanced : Closes (List.count Pending.group []) tokens
  · obtain ⟨found, same, perm⟩ :
      ∃ found, convert registry [] tokens = .ok found ∧
        found.Perm (symbolsOf tokens ++ appliedTokens []) := convert_of_closes balanced
    rw [converted] at same
    cases same
    exact ⟨balanced, by simpa [appliedTokens] using perm⟩
  · rw [convert_of_not_closes balanced] at converted
    cases converted

end Calculator.Expression
