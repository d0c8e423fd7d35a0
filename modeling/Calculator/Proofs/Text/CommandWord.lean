import Calculator.Proofs.Text.Trim
import Calculator.Text.CommandWord

/-!
Command words in front of a text.

A command word is recognised exactly if it stands behind blanks and the text does not go on with
a character of a word; its argument is the rest of the text, trimmed
(`commandArgument?_eq_some_iff`).
-/

namespace Calculator.Text

/-- The text does not go on with a word. -/
def EndsWord (rest : List Char) : Prop :=
  ∀ c, rest.head? = some c → isWordCharacter c = false

theorem endsWord_cons {c : Char} {rest : List Char} :
    EndsWord (c :: rest) ↔ isWordCharacter c = false := by
  simp [EndsWord]

/-- A character in one class of ranges is in no class that keeps clear of them. -/
theorem inRanges_eq_false_of_disjoint {ranges others : List (Nat × Nat)}
    (disjoint : ∀ range ∈ ranges, ∀ other ∈ others, range.2 < other.1 ∨ other.2 < range.1)
    {c : Char} (inside : inRanges ranges c = true) : inRanges others c = false := by
  obtain ⟨range, mem, bounds⟩ := List.any_eq_true.mp inside
  simp only [Bool.and_eq_true, decide_eq_true_eq] at bounds
  refine List.any_eq_false.mpr fun other otherMem => ?_
  have apart := disjoint range mem other otherMem
  simp only [Bool.and_eq_true, decide_eq_true_eq]
  omega

/-- A blank ends a word. -/
theorem isWordCharacter_of_isBlank {c : Char} (blank : isBlank c = true) :
    isWordCharacter c = false := by
  have notAlphanumeric : isAlphanumeric c = false :=
    inRanges_eq_false_of_disjoint (by decide +kernel) blank
  have notUnderscore : c ≠ '_' := by
    rintro rfl
    revert blank
    decide
  simp [isWordCharacter, notAlphanumeric, notUnderscore]

theorem endsWord_iff {rest : List Char} :
    (rest.head?.map isWordCharacter).getD false = false ↔ EndsWord rest := by
  cases rest <;> simp [EndsWord]

/-- A command word is recognised behind blanks and in front of the end of a word; its argument
is the rest of the text, trimmed. -/
theorem commandArgument?_eq_some_iff {c : Char} {word text argument : List Char}
    (visible : isBlank c = false) :
    commandArgument? (c :: word) text = some argument ↔ ∃ front rest, IsBlankText front ∧
      EndsWord rest ∧ text = front ++ c :: word ++ rest ∧ argument = trim rest := by
  constructor
  · intro found
    rw [commandArgument?] at found
    dsimp only at found
    split at found
    · rename_i atStart
      split at found
      · cases found
      · rename_i ends
        cases found
        refine ⟨text.takeWhile isBlank, (trimStart text).drop (c :: word).length,
          fun c mem => List.mem_takeWhile_imp mem, endsWord_iff.mp (Bool.eq_false_iff.mpr ends),
          ?_, rfl⟩
        obtain ⟨rest, split⟩ := List.isPrefixOf_iff_prefix.mp atStart
        have whole : text.takeWhile isBlank ++ trimStart text = text :=
          List.takeWhile_append_dropWhile
        rw [← split, List.drop_left, List.append_assoc, split, whole]
    · cases found
  · rintro ⟨front, rest, blank, ends, rfl, rfl⟩
    have start : trimStart (front ++ c :: word ++ rest) = c :: word ++ rest := by
      rw [List.append_assoc, trimStart_append blank]
      exact trimStart_of_head (by simpa using visible)
    have atStart : (c :: word).isPrefixOf (c :: word ++ rest) = true :=
      List.isPrefixOf_iff_prefix.mpr (List.prefix_append _ _)
    rw [commandArgument?, start]
    simp only [atStart, if_true, List.drop_left, endsWord_iff.mpr ends, Bool.false_eq_true,
      if_false]

theorem commandArgument?_append {front : List Char} (blank : IsBlankText front)
    (word text : List Char) : commandArgument? word (front ++ text) = commandArgument? word text := by
  rw [commandArgument?, trimStart_append blank, commandArgument?]

/-- A command word and a blank may stand in front of any argument. -/
theorem commandArgument?_blank {c : Char} (visible : isBlank c = false)
    (word argument : List Char) :
    commandArgument? (c :: word) (c :: word ++ ' ' :: argument) = some (trim argument) := by
  have blank : isBlank ' ' = true := isBlankText_space ' ' List.mem_cons_self
  refine (commandArgument?_eq_some_iff visible).mpr ⟨[], ' ' :: argument, isBlankText_nil,
    endsWord_cons.mpr (isWordCharacter_of_isBlank blank), rfl, ?_⟩
  exact (trim_append isBlankText_space argument).symm

/-- A text that starts with another character is no command. -/
theorem commandArgument?_other {c d : Char} (visible : isBlank d = false) (other : c ≠ d)
    (word rest : List Char) : commandArgument? (c :: word) (d :: rest) = none := by
  have start : trimStart (d :: rest) = d :: rest := trimStart_of_head (by simpa using visible)
  rw [commandArgument?, start]
  simp [List.isPrefixOf, other]

end Calculator.Text
