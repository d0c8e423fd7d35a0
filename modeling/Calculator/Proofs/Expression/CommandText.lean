import Calculator.Expression.Command
import Calculator.Proofs.Linear.SystemRoundTrip
import Calculator.Proofs.Text.CommandWord
import Calculator.Proofs.Text.Lists

/-!
Commands on expressions, given as text.

`SolveText` and `QuadraticText` say how a call is written down, with blanks wherever there is
room for them. The marks of a text are found by their first occurrence, so an equation may hold
any characters but the two that end it, `;` and the closing brace. The main statement,
`command_text_eq_call`, is that such a text is answered as the call that is written.
-/

namespace Calculator.Expression

open Linear Text

variable {α : Type} [Arithmetic α] [Numeral α]

/-! ### Calls as text -/

/-- A call to solve nonlinear equations from a guess. -/
inductive SolveText (equations guess : List (List Char)) : List Char → Prop where
  | call {front gap listed between numbers behind : List Char} : IsBlankText front →
      IsBlankText gap → ListText ';' equations listed → IsBlankText between →
      ListText ',' guess numbers → IsBlankText behind →
      SolveText equations guess (front ++ "solve_nl".toList ++ (gap ++
        ('\x7b' :: listed ++ '\x7d' :: between ++ '[' :: numbers ++ [']']) ++ behind))

/-- A call for the roots of a quadratic. -/
inductive QuadraticText (coefficients : List (List Char)) : List Char → Prop where
  | call {front arguments : List Char} : IsBlankText front →
      SpacedText coefficients arguments →
      QuadraticText coefficients (front ++ "quadratic".toList ++ arguments)

/-- The plain way to write the call. -/
theorem solveText_intercalate (equations guess : List (List Char)) :
    SolveText equations guess ("solve_nl \x7b".toList ++ List.intercalate [';', ' '] equations ++
      "\x7d [".toList ++ List.intercalate [',', ' '] guess ++ [']']) := by
  have written := SolveText.call isBlankText_nil isBlankText_space
    (listText_intercalate ';' equations) isBlankText_space (listText_intercalate ',' guess)
    isBlankText_nil
  simpa using written

/-! ### Written numbers -/

section Numbers

variable [ReadsBack α]

open ReadsBack

/-- A written number is one word, and has none of the marks of a list. -/
theorem visible_write (x : α) : Numeral.write x ≠ [] ∧ ∀ c ∈ Numeral.write x,
    isBlank c = false ∧ c ≠ ',' ∧ c ≠ ']' := by
  refine ⟨write_ne_nil x, fun c mem => ?_⟩
  have inSum := mem_write x c mem
  refine ⟨not_isBlank_of_isSumCharacter inSum, ?_, ?_⟩
  · rintro rfl
    exact absurd inSum (by decide)
  · rintro rfl
    exact absurd inSum (by decide)

theorem trim_write (x : α) : trim (Numeral.write x) = Numeral.write x :=
  trim_of_ends (fun c atHead => ((visible_write x).2 c (List.mem_of_mem_head? atHead)).1)
    fun c last => ((visible_write x).2 c (List.mem_of_getLast? last)).1

theorem mapM_read?_write (values : List α) :
    (values.map Numeral.write).mapM Numeral.read? = some values := by
  rw [mapM_eq_some_iff, List.forall₂_map_left_iff, List.forall₂_same]
  exact fun x _ => read?_write x

end Numbers

/-! ### Quadratic equations -/

theorem quadraticCommand_eq [ReadsBack α] {a b c : α} {arguments : List Char}
    (spaced : SpacedText ([a, b, c].map Numeral.write) arguments) :
    quadraticCommand (trim arguments) = quadraticRoots a b c := by
  have asWords : words arguments = [a, b, c].map Numeral.write :=
    spaced.words_eq fun item mem => by
      obtain ⟨x, -, rfl⟩ := List.mem_map.mp mem
      exact ⟨(visible_write x).1, fun d inItem => ((visible_write x).2 d inItem).1⟩
  rw [quadraticCommand, words_trim, asWords, mapM_read?_write]

/-! ### Nonlinear equations -/

theorem listItems_eq {separator : Char} {items : List (List Char)} {text : List Char}
    (isList : ListText separator items text) (visible : isBlank separator = false)
    (proper : ∀ item ∈ items, trim item ≠ [] ∧ separator ∉ item) :
    listItems separator text = items.map trim := by
  rw [listItems, isList.filter_pieces visible fun item mem => (proper item mem).2,
    List.filter_eq_self]
  intro item mem
  obtain ⟨item, inItems, rfl⟩ := List.mem_map.mp mem
  simpa using (proper item inItems).1

/-- The equations and the guess are found again. -/
theorem readNonlinear?_eq [ReadsBack α] {equations : List (List Char)} {guess : List α}
    {listed between numbers : List Char} (isListed : ListText ';' equations listed)
    (blank : IsBlankText between) (isNumbers : ListText ',' (guess.map Numeral.write) numbers)
    (proper : ∀ equation ∈ equations, trim equation ≠ [] ∧ ';' ∉ equation ∧ '\x7d' ∉ equation)
    (behind : List Char) :
    readNonlinear? ('\x7b' :: listed ++ '\x7d' :: between ++ '[' :: numbers ++ ']' :: behind) =
      some (equations.map trim, guess) := by
  have properNumber : ∀ item ∈ guess.map Numeral.write,
      trim item ≠ [] ∧ ',' ∉ item ∧ ']' ∉ item := fun item mem => by
    obtain ⟨x, -, rfl⟩ := List.mem_map.mp mem
    obtain ⟨nonempty, visible⟩ := visible_write x
    refine ⟨?_, fun comma => (visible _ comma).2.1 rfl, fun bracket => (visible _ bracket).2.2 rfl⟩
    rwa [trim_write]
  have noBrace : '\x7d' ∉ listed := isListed.not_mem (by decide) (by decide)
    fun equation mem => (proper equation mem).2.2
  have noBracket : ']' ∉ numbers := isNumbers.not_mem (by decide) (by decide)
    fun item mem => (properNumber item mem).2.2
  have noOpening : '[' ∉ between := fun mem => absurd (blank _ mem) (by decide)
  have braces : enclosed? '\x7b' '\x7d'
      ('\x7b' :: listed ++ '\x7d' :: between ++ '[' :: numbers ++ ']' :: behind) =
        some (listed, between ++ '[' :: numbers ++ ']' :: behind) := by
    have found := @enclosed?_eq_some '\x7b' '\x7d' [] listed List.not_mem_nil noBrace
      (between ++ '[' :: numbers ++ ']' :: behind)
    simpa using found
  have equationsRead : listItems ';' listed = equations.map trim :=
    listItems_eq isListed (by decide) fun equation mem =>
      ⟨(proper equation mem).1, (proper equation mem).2.1⟩
  have trimmed : (guess.map Numeral.write).map trim = guess.map Numeral.write := by
    rw [List.map_map]
    exact List.map_congr_left fun x _ => trim_write x
  have guessRead : listItems ',' numbers = guess.map Numeral.write := by
    rw [listItems_eq isNumbers (by decide) fun item mem =>
      ⟨(properNumber item mem).1, (properNumber item mem).2.1⟩, trimmed]
  rw [readNonlinear?, braces, Option.bind_some, enclosed?_eq_some noOpening noBracket,
    Option.bind_some, equationsRead, guessRead, mapM_read?_write]
  rfl

/-- The lists of a call are the argument of its command word. -/
theorem SolveText.exists_argument {equations guess : List (List Char)} {text : List Char}
    (written : SolveText equations guess text) : ∃ listed between numbers,
      ListText ';' equations listed ∧ IsBlankText between ∧ ListText ',' guess numbers ∧
      commandArgument? "quadratic".toList text = none ∧
      commandArgument? "solve_nl".toList text =
        some ('\x7b' :: listed ++ '\x7d' :: between ++ '[' :: numbers ++ [']']) := by
  obtain @⟨front, gap, listed, between, numbers, behind, blankFront, blankGap, isListed,
    blankBetween, isNumbers, blankBehind⟩ := written
  refine ⟨listed, between, numbers, isListed, blankBetween, isNumbers, ?_, ?_⟩
  · rw [List.append_assoc, commandArgument?_append blankFront]
    exact commandArgument?_other (by decide) (by decide) _ _
  · let body := '\x7b' :: listed ++ '\x7d' :: between ++ '[' :: numbers ++ [']']
    have ends : EndsWord (gap ++ body ++ behind) := by
      cases gap with
      | nil => exact endsWord_cons.mpr (by decide +kernel)
      | cons c gap =>
          exact endsWord_cons.mpr (isWordCharacter_of_isBlank (blankGap c List.mem_cons_self))
    have visible : isBlank '\x7b' = false ∧ isBlank ']' = false := by decide
    have lastOfBody : body.getLast? = some ']' := List.getLast?_concat
    have trimmed : trim body = body :=
      trim_of_ends (fun c atHead => Option.some.inj atHead ▸ visible.1) fun c last =>
        Option.some.inj (lastOfBody.symm.trans last) ▸ visible.2
    refine (commandArgument?_eq_some_iff (by decide)).mpr ⟨front, _, blankFront, ends, rfl, ?_⟩
    rw [trim_surround blankGap blankBehind, trimmed]

/-! ### Answers -/

variable [ReadsBack α] (registry : Registry α) (config : Config α) (context : Context α)

/-- The written call of the solver is the call with the trimmed equations. -/
theorem respond_solveText {equations : List (List Char)} {n : Nat} {guess : Vector α n}
    {text : List Char} (written : SolveText equations (guess.toList.map Numeral.write) text)
    (proper : ∀ equation ∈ equations, trim equation ≠ [] ∧ ';' ∉ equation ∧ '\x7d' ∉ equation) :
    respond registry config context text =
      (Nonlinear.solve registry config context (equations.map trim) guess).map .vector := by
  obtain ⟨listed, between, numbers, isListed, blank, isNumbers, noQuadratic, solve⟩ :=
    written.exists_argument
  rw [respond, noQuadratic, solve]
  simp only [readNonlinear?_eq isListed blank isNumbers proper []]
  obtain ⟨values, rfl⟩ := guess
  rfl

/-- The written call for the roots of a quadratic is the call with its coefficients. -/
theorem respond_quadraticText {a b c : α} {text : List Char}
    (written : QuadraticText ([a, b, c].map Numeral.write) text) :
    respond registry config context text =
      ((quadraticRoots a b c).mapError Failure.algebraic).map .vector := by
  obtain @⟨front, arguments, blank, spaced⟩ := written
  have ends : EndsWord arguments := fun d atHead =>
    isWordCharacter_of_isBlank (spaced.isBlank_head d atHead)
  have command : commandArgument? "quadratic".toList (front ++ "quadratic".toList ++ arguments) =
      some (trim arguments) :=
    (commandArgument?_eq_some_iff (by decide)).mpr ⟨front, arguments, blank, ends, rfl, rfl⟩
  rw [respond, command]
  simp only [quadraticCommand_eq spaced]

/-- The text of a command is answered as the call it stands for, whatever the answer is: a
value, or any of the errors. -/
theorem command_text_eq_call (registry : Registry Float) (config : Config Float)
    (context : Context Float) :
    (∀ (equations : List (List Char)) (n : Nat) (guess : Vector Float n) (text : List Char),
      (∀ equation ∈ equations, trim equation ≠ [] ∧ ';' ∉ equation ∧ '\x7d' ∉ equation) →
      SolveText equations (guess.toList.map Numeral.write) text →
        respond registry config context text =
          (Nonlinear.solve registry config context (equations.map trim) guess).map .vector) ∧
    ∀ (a b c : Float) (text : List Char), QuadraticText ([a, b, c].map Numeral.write) text →
      respond registry config context text =
        ((quadraticRoots a b c).mapError Failure.algebraic).map .vector :=
  ⟨fun _ _ _ _ proper written => respond_solveText registry config context written proper,
    fun _ _ _ _ => respond_quadraticText registry config context⟩

/-- The equations of a call may hold an opening brace, and brackets and commas as well. -/
theorem command_text_eq_call_marks :
    let guess : Vector Float 2 := #v[2, -1 / 2]
    ∀ (registry : Registry Float) (config : Config Float) (context : Context Float),
      respond registry config context
          "solve_nl \x7b max(x, [1]) = \x7bé ; y\x7d [2, -0.5]".toList =
        (Nonlinear.solve registry config context ["max(x, [1]) = \x7bé".toList, "y".toList]
          guess).map .vector ∧
      respond registry config context "quadratic 2 -0.5 2".toList =
        ((quadraticRoots 2 (-1 / 2) 2).mapError Failure.algebraic).map .vector := by
  intro guess registry config context
  let equations := [" max(x, [1]) = \x7bé ".toList, "y".toList]
  have writes : guess.toList.map Numeral.write = ["2".toList, "-0.5".toList] ∧
      [2, -1 / 2, 2].map (Numeral.write (α := Float)) =
        ["2".toList, "-0.5".toList, "2".toList] := by decide +kernel
  have proper : ∀ equation ∈ equations,
      trim equation ≠ [] ∧ ';' ∉ equation ∧ '\x7d' ∉ equation := by decide +kernel
  have trimmed : equations.map trim = ["max(x, [1]) = \x7bé".toList, "y".toList] := by
    decide +kernel
  have written : SolveText equations (guess.toList.map Numeral.write)
      "solve_nl \x7b max(x, [1]) = \x7bé ; y\x7d [2, -0.5]".toList := by
    rw [writes.1]
    exact solveText_intercalate equations ["2".toList, "-0.5".toList]
  have spaced : SpacedText ["2".toList, "-0.5".toList, "2".toList] " 2 -0.5 2".toList :=
    .cons (List.cons_ne_nil _ _) isBlankText_space (.cons (List.cons_ne_nil _ _)
      isBlankText_space (.cons (List.cons_ne_nil _ _) isBlankText_space (.nil isBlankText_nil)))
  have quadratic : QuadraticText ([2, -1 / 2, 2].map (Numeral.write (α := Float)))
      "quadratic 2 -0.5 2".toList := by
    rw [writes.2]
    exact .call isBlankText_nil spaced
  have answers := command_text_eq_call registry config context
  rw [← trimmed]
  exact ⟨answers.1 equations 2 guess _ proper written, answers.2 2 (-1 / 2) 2 _ quadratic⟩

end Calculator.Expression
