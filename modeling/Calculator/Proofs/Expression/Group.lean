import Calculator.Proofs.Expression.Conversion
import Calculator.Proofs.Expression.Rendering

/-!
Texts in parentheses.

A text in parentheses means the same as on its own. No binary symbol reaches over a
parenthesis, so the words inside are those of the text (`words_spaced_parenthesis`); an
operand begins behind an opening parenthesis as it does at the beginning, so its tokens are
the same (`classifyWords_group`); and no operator releases an open group, so the tokens go
out as they do on an empty stack (`convert_group`).
-/

namespace Calculator.Expression

variable {α : Type} {registry : Registry α}

/-! ### Words -/

/-- The words on either side of a parenthesis that occurs in no symbol. -/
theorem words_spaced_parenthesis {symbols : List (List Char)} {c : Char}
    (absent : ∀ symbol ∈ symbols, c ∉ symbol) (parenthesis : isParenthesis c = true)
    (before behind : List Char) :
    Text.words (spaced symbols (before ++ c :: behind)) =
      Text.words (spaced symbols before) ++ [c] :: Text.words (spaced symbols behind) := by
  have blank : Text.isBlank ' ' = true := by decide
  have alone : Text.words [c] = [[c]] :=
    Text.words_of_not_blank (List.cons_ne_nil _ _)
      (by simpa using not_isBlank_of_isParenthesis parenthesis)
  have stretches : spaced symbols (before ++ c :: behind) =
      spaced symbols before ++ ' ' :: ([c] ++ ' ' :: spaced symbols behind) := by
    rw [spaced, scan_append_of_absent absent, scan, if_pos parenthesis, List.flatMap_append]
    rfl
  rw [stretches, Text.words_append_cons blank, Text.words_append_cons blank, alone]
  rfl

/-! ### Tokens -/

section Tokens

variable [Numeral α]

/-- Behind words and a closing parenthesis, an operand has just ended. -/
theorem classifyWords_closeParen (words rest : List (List Char)) (followsOperand : Bool) :
    classifyWords registry followsOperand (words ++ [')'] :: rest) =
      classifyWords registry followsOperand words ++
        .closeParen :: classifyWords registry true rest := by
  induction words generalizing followsOperand with
  | nil => rfl
  | cons word words ih => rw [List.cons_append, classifyWords, classifyWords, ih, List.cons_append]

/-- The words in parentheses stand for the tokens they stand for at the beginning of a
text. -/
theorem classifyWords_group (words rest : List (List Char)) (followsOperand : Bool) :
    classifyWords registry followsOperand (['('] :: (words ++ [')'] :: rest)) =
      .openParen :: (classifyWords registry false words ++
        .closeParen :: classifyWords registry true rest) := by
  rw [← classifyWords_closeParen]
  rfl

end Tokens

/-! ### Conversion -/

/-- An operator releases nothing below an open group. -/
theorem takeWhile_dropWhile_group (symbol : List Char) (pending below : List Pending) :
    (pending ++ .group :: below).takeWhile (isReleasedBy registry symbol) =
        pending.takeWhile (isReleasedBy registry symbol) ∧
      (pending ++ .group :: below).dropWhile (isReleasedBy registry symbol) =
        pending.dropWhile (isReleasedBy registry symbol) ++ .group :: below := by
  have kept : isReleasedBy registry symbol .group = false := rfl
  induction pending with
  | nil => simp [kept]
  | cons entry pending ih =>
      rw [List.cons_append, List.takeWhile_cons, List.takeWhile_cons, List.dropWhile_cons,
        List.dropWhile_cons, ih.1, ih.2]
      split <;> simp

/-- Closing an inner group leaves an outer one alone. -/
theorem closeGroup?_append_group {pending released kept : List Pending}
    (closed : closeGroup? pending = some (released, kept)) (below : List Pending) :
    closeGroup? (pending ++ .group :: below) = some (released, kept ++ .group :: below) := by
  fun_induction closeGroup? pending generalizing released kept with
  | case1 => cases closed
  | case2 symbol rest =>
      cases closed
      rfl
  | case3 rest noFunction =>
      cases closed
      apply closeGroup?_group
      intro symbol atHead
      cases rest with
      | nil => cases atHead
      | cons entry rest =>
          cases atHead
          exact noFunction symbol rest rfl
  | case4 waiting rest noCall noGroup ih =>
      obtain ⟨⟨first, second⟩, closedRest, same⟩ := Option.map_eq_some_iff.mp closed
      cases same
      rw [List.cons_append, closeGroup?_cons noGroup, ih closedRest]
      rfl

/-- Tokens in a group go out as they do on their own. What their conversion leaves waiting
goes out with the group, and behind it what closing the group releases. -/
theorem convert_group {pending below released kept : List Pending}
    {tokens rest output : List (Token α)}
    (closing : closeGroup? (.group :: below) = some (released, kept))
    (converted : convert registry pending tokens = .ok output) :
    convert registry (pending ++ .group :: below) (tokens ++ .closeParen :: rest) =
      (convert registry kept rest).map (output ++ released.map Pending.token ++ ·) := by
  induction tokens generalizing pending output with
  | nil =>
      rw [convert] at converted
      split at converted
      · cases converted
      · rename_i noGroup
        cases converted
        rw [List.nil_append, convert, closeGroup?_append noGroup, closing]
        simp
  | cons token tokens ih =>
      rw [List.cons_append]
      cases token with
      | number value =>
          obtain ⟨output, convertedRest, rfl⟩ := exists_of_map_eq_ok converted
          rw [convert, ih convertedRest]
          exact map_append_map _ [.number value] _
      | identifier name =>
          obtain ⟨output, convertedRest, rfl⟩ := exists_of_map_eq_ok converted
          rw [convert, ih convertedRest]
          exact map_append_map _ [.identifier name] _
      | function symbol => exact ih converted
      | openParen => exact ih converted
      | operator symbol =>
          obtain ⟨output, convertedRest, rfl⟩ := exists_of_map_eq_ok converted
          obtain ⟨taken, dropped⟩ :
            (pending ++ .group :: below).takeWhile (isReleasedBy registry symbol) = _ ∧ _ :=
              takeWhile_dropWhile_group symbol pending below
          rw [convert, taken, dropped, ← List.cons_append, ih convertedRest, map_append_map]
          simp only [List.append_assoc]
      | closeParen =>
          rw [convert] at converted
          split at converted
          · cases converted
          · rename_i inner outer closed
            obtain ⟨output, convertedRest, rfl⟩ := exists_of_map_eq_ok converted
            rw [convert, closeGroup?_append_group closed]
            dsimp only
            rw [ih convertedRest, map_append_map]
            simp only [List.append_assoc]

/-- Tokens in parentheses have the postfix order they have on their own, on every stack. -/
theorem convert_parenthesized {pending released kept : List Pending}
    {tokens rest output : List (Token α)}
    (closing : closeGroup? (.group :: pending) = some (released, kept))
    (converted : convert registry [] tokens = .ok output) :
    convert registry pending (.openParen :: (tokens ++ .closeParen :: rest)) =
      (convert registry kept rest).map (output ++ released.map Pending.token ++ ·) := by
  rw [convert]
  exact convert_group closing converted

end Calculator.Expression
