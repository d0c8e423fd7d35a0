import Calculator.Text.Pieces

/-!
Setting operators apart.

Binary symbols and parentheses need no blanks around them in an expression. `scan` walks
over the text and splits out every parenthesis and, elsewhere, the first symbol of the
list that starts there; with the longest symbols first this is the longest one. Nothing
is lost or repeated (`flatMap_text_scan`). `spaced` puts a blank on either side of what
was split out, so the words of the result are the words of the expression.
-/

namespace Calculator.Expression

/-- A stretch of a text: a character left where it is, or a piece that stands apart. -/
inductive Stretch where
  | kept (c : Char)
  | apart (piece : List Char)
  deriving DecidableEq, Repr

namespace Stretch

def text : Stretch → List Char
  | .kept c => [c]
  | .apart piece => piece

/-- The stretch with blanks around a piece that stands apart. -/
def spaced : Stretch → List Char
  | .kept c => [c]
  | .apart piece => ' ' :: piece ++ [' ']

end Stretch

def isParenthesis (c : Char) : Bool :=
  c == '(' || c == ')'

/-- The first symbol of the list that has a character and starts the text. -/
def symbolAt? (symbols : List (List Char)) (text : List Char) : Option (List Char) :=
  symbols.find? fun symbol => !symbol.isEmpty && symbol.isPrefixOf text

/-- The stretches of a text, for a list of symbols in the order of preference. -/
def scan (symbols : List (List Char)) : List Char → List Stretch
  | [] => []
  | c :: rest =>
      if isParenthesis c then .apart [c] :: scan symbols rest
      else
        match symbolAt? symbols (c :: rest) with
        | some symbol => .apart symbol :: scan symbols (rest.drop (symbol.length - 1))
        | none => .kept c :: scan symbols rest
termination_by text => text.length
decreasing_by
  all_goals simp only [List.length_cons, List.length_drop]; omega

theorem eq_append_of_symbolAt? {symbols : List (List Char)} {text symbol : List Char}
    (found : symbolAt? symbols text = some symbol) :
    symbol ≠ [] ∧ text = symbol ++ text.drop symbol.length := by
  have holds := List.find?_some found
  simp only [Bool.and_eq_true, Bool.not_eq_true', List.isEmpty_eq_false_iff,
    List.isPrefixOf_iff_prefix] at holds
  obtain ⟨nonempty, rest, rfl⟩ := holds
  exact ⟨nonempty, by simp⟩

/-- The stretches of a text cover it from end to end. -/
theorem flatMap_text_scan (symbols : List (List Char)) (text : List Char) :
    (scan symbols text).flatMap Stretch.text = text := by
  fun_induction scan symbols text with
  | case1 => rfl
  | case2 c rest _ ih => simp [Stretch.text, ih]
  | case3 c rest _ symbol found ih =>
      obtain ⟨nonempty, split⟩ := eq_append_of_symbolAt? found
      obtain ⟨d, tail, rfl⟩ := List.exists_cons_of_ne_nil nonempty
      rw [List.flatMap_cons, ih]
      simpa [Stretch.text] using split.symm
  | case4 c rest _ _ ih => simp [Stretch.text, ih]

/-- The text with blanks around parentheses and symbols. -/
def spaced (symbols : List (List Char)) (text : List Char) : List Char :=
  (scan symbols text).flatMap Stretch.spaced

end Calculator.Expression
