import Calculator.Number.Double
import Calculator.Proofs.Expression.Unmentioned
import Calculator.Proofs.Linear.Matrix
import Calculator.Session

/-!
Where the values of names come from.

A name is looked up in layers: first among the unknowns of an equation, then among the variables
given with a text, and then it may be the last answer. What a layer has for a name that an outer
layer binds is out of reach. So an evaluation depends on the variables of its names only
(`evaluate_congr`), the solution of equations on those of its names that are not unknowns
(`solve_congr`), and an answer on the last one only if no variable hides it
(`orElse_answerContext_of_bound`). Main statement: `bindings_layered`.
-/

namespace Calculator

variable {α : Type}

/-! ### Contexts that agree -/

namespace Expression

/-- Two contexts have the same values for the names of a sequence. -/
def Context.AgreeOn (first second : Context α) (tokens : List (Token α)) : Prop :=
  ∀ name, Token.identifier name ∈ tokens → first name = second name

variable {registry : Registry α} {first second : Context α}

theorem step_congr_context {stack : List α} {token : Token α}
    (agree : ∀ name, token = .identifier name → first name = second name) :
    step registry first stack token = step registry second stack token := by
  cases token with
  | identifier name => rw [step, step, agree name rfl]
  | _ => rfl

/-- Every name of a postfix order is one of the tokens it was made of. -/
theorem identifier_mem_of_convert {tokens order : List (Token α)} {name : List Char}
    (converted : convert registry [] tokens = .ok order)
    (mem : Token.identifier name ∈ order) : Token.identifier name ∈ tokens :=
  List.mem_of_mem_filter ((convert_eq_ok converted).2.mem_iff.mp mem)

theorem Context.AgreeOn.runPostfix {tokens order : List (Token α)}
    (converted : convert registry [] tokens = .ok order) (agree : first.AgreeOn second tokens) :
    runPostfix registry first order = Expression.runPostfix registry second order := by
  refine runPostfix_congr_of_step fun token mem stack => step_congr_context ?_
  rintro name rfl
  exact agree name (identifier_mem_of_convert converted mem)

theorem evaluate_congr [Numeral α] {text : List Char}
    (agree : first.AgreeOn second (tokensOf registry text)) :
    evaluate registry first text = evaluate registry second text := by
  rw [evaluate, evaluate]
  cases converted : postfixOrder registry text with
  | error cause => rfl
  | ok order => exact agree.runPostfix converted

/-! ### Bindings from two lists -/

theorem Context.ofBindings_cons (binding : List Char × α) (bindings : List (List Char × α))
    (name : List Char) : ofBindings (binding :: bindings) name =
      if binding.1 = name then some binding.2 else ofBindings bindings name := by
  rw [ofBindings, List.find?_cons]
  by_cases same : binding.1 = name
  · rw [if_pos same, beq_iff_eq.mpr same]
    rfl
  · rw [if_neg same, beq_false_of_ne same]
    rfl

/-- The names for which there are values have them. -/
theorem Context.ofBindings_zip {names : List (List Char)} (distinct : names.Nodup)
    {values : List α} {i : Nat} {name : List Char} {value : α} (known : names[i]? = some name)
    (given : values[i]? = some value) : ofBindings (names.zip values) name = some value := by
  induction names generalizing values i with
  | nil => cases known
  | cons other names ih =>
      cases values with
      | nil => cases given
      | cons first values =>
          rw [List.zip_cons_cons, ofBindings_cons]
          cases i with
          | zero =>
              cases known
              cases given
              exact if_pos rfl
          | succ i =>
              have apart : other ≠ name := by
                rintro rfl
                exact (List.nodup_cons.mp distinct).1 (List.mem_of_getElem? known)
              rw [if_neg apart]
              exact ih (List.nodup_cons.mp distinct).2 known given

/-- All other names have no value. -/
theorem Context.ofBindings_zip_of_not_mem {names : List (List Char)} {values : List α}
    {name : List Char} (free : name ∉ names.take values.length) :
    ofBindings (names.zip values) name = none := by
  induction names generalizing values with
  | nil => rfl
  | cons other names ih =>
      cases values with
      | nil => rfl
      | cons value values =>
          rw [List.length_cons, List.take_succ_cons, List.mem_cons, not_or] at free
          rw [List.zip_cons_cons, ofBindings_cons, if_neg (Ne.symm free.1)]
          exact ih free.2

end Expression

/-! ### Unknowns -/

namespace Nonlinear

open Expression

variable {n : Nat} {values : Vector α n} {outer : Context α} {name : List Char}

/-- An unknown hides a variable of its name. -/
theorem bindUnknowns_of_unknown {i : Fin n} (unknown : unknownNames[i.val]? = some name) :
    bindUnknowns values outer name = some (values.get i) := by
  have distinct : unknownNames.Nodup := by decide
  have given : values.toList[i.val]? = some (values.get i) := by simp [Vector.get]
  rw [bindUnknowns, Context.orElse, Context.ofBindings_zip distinct unknown given]
  rfl

/-- A name that is not bound, though it may be the next one of the list, is a variable. -/
theorem bindUnknowns_of_free (free : name ∉ unknownNames.take n) :
    bindUnknowns values outer name = outer name := by
  rw [bindUnknowns, Context.orElse, Context.ofBindings_zip_of_not_mem]
  · exact Option.none_or
  · rwa [Vector.length_toList]

variable {first second : Context α}

/-- Contexts that agree on a name unless it is an unknown give it the same value. -/
theorem bindUnknowns_congr (agree : name ∉ unknownNames.take n → first name = second name) :
    bindUnknowns values first name = bindUnknowns values second name := by
  by_cases free : name ∉ unknownNames.take n
  · rw [bindUnknowns_of_free free, bindUnknowns_of_free free, agree free]
  · obtain ⟨i, bound, found⟩ := List.mem_take_iff_getElem.mp (not_not.mp free)
    have unknown : unknownNames[i]? = some name := List.getElem?_eq_some_iff.mpr ⟨_, found⟩
    let index : Fin n := ⟨i, bound.trans_le (Nat.min_le_left _ _)⟩
    rw [bindUnknowns_of_unknown (i := index) unknown, bindUnknowns_of_unknown (i := index) unknown]

/-- Residuals look up names of the equations. -/
theorem residuals_congr [Numeral α] {registry : Registry α} {texts : Fin n → List Char}
    {compiled : Vector (List (Token α)) n}
    (converted : ∀ i, postfixOrder registry (texts i) = .ok (compiled.get i))
    (agree : ∀ i name, Token.identifier name ∈ tokensOf registry (texts i) →
      name ∉ unknownNames.take n → first name = second name) :
    residuals registry first compiled = residuals registry second compiled := by
  funext x
  rw [residuals, residuals]
  have same (i : Fin n) : runPostfix registry (bindUnknowns x first) (compiled.get i) =
      runPostfix registry (bindUnknowns x second) (compiled.get i) :=
    Context.AgreeOn.runPostfix (converted i) fun name mem => bindUnknowns_congr (agree i name mem)
  simp only [same]

/-- Newton's method sees a context through the residuals only. -/
theorem solve_congr [Arithmetic α] [Numeral α] {registry : Registry α} {config : Config α}
    {equations : List (List Char)} {guess : Vector α n}
    (agree : ∀ equation ∈ equations, ∀ name,
      Token.identifier name ∈ tokensOf registry (residualText equation) →
        name ∉ unknownNames.take n → first name = second name) :
    solve registry config first equations guess = solve registry config second equations guess := by
  rw [solve, solve]
  by_cases square : equations.length = n ∧ 0 < n ∧ n ≤ unknownNames.length
  · rw [dif_pos square, dif_pos square]
    cases read : Vector.ofFnM fun i : Fin n =>
        postfixOrder registry (residualText (equations.get (i.cast square.1.symm))) with
    | error cause => simp only [Except.mapError, Except.bind]
    | ok compiled =>
        have same : residuals registry first compiled = residuals registry second compiled :=
          residuals_congr (Linear.ofFnM_eq_ok_iff.mp read) fun i => agree _ (List.get_mem _ _)
        exact congrArg (Newton.solve · config guess) same
  · rw [dif_neg square, dif_neg square]

end Nonlinear

/-! ### The last answer -/

namespace Session

open Expression Nonlinear

/-- A variable of its name hides the last answer. -/
theorem orElse_answerContext_of_bound {context : Context α}
    (bound : (context answerName).isSome = true) (session : Session α) :
    context.orElse session.answerContext = context := by
  funext name
  rw [Context.orElse]
  by_cases same : name = answerName
  · obtain ⟨x, found⟩ := Option.isSome_iff_exists.mp bound
    rw [same, found, Option.some_or]
  · rw [answerContext, if_neg same, Option.or_none]

theorem evaluate_of_bound [Arithmetic α] [Numeral α] {context : Context α}
    (bound : (context answerName).isSome = true) (session : Session α) (last : Option α)
    (text : List Char) : ({ session with lastAnswer := last }.evaluate context text).1 =
      (session.evaluate context text).1 := by
  change respond _ _ _ = respond _ _ _
  rw [respond, respond, orElse_answerContext_of_bound bound, orElse_answerContext_of_bound bound]

/-- Names are looked up in layers. The value of an expression is the same in contexts that agree
on its names. So is the solution of equations if the contexts agree on the names of the
equations that are not unknowns: the first `n` names of the list have the values of the unknowns
whatever the context, and all others, the rest of the list among them, are looked up there. And
where a variable has the name of the last answer, the answer to a text does not depend on the
last one. -/
theorem bindings_layered [Arithmetic α] [Numeral α] (registry : Registry α)
    (config : Config α) :
    (∀ (text : List Char) (first second : Context α),
      first.AgreeOn second (tokensOf registry text) →
        Expression.evaluate registry first text = Expression.evaluate registry second text) ∧
    (∀ {n : Nat} (equations : List (List Char)) (guess : Vector α n) (first second : Context α),
      (∀ equation ∈ equations, ∀ name,
        Token.identifier name ∈ tokensOf registry (residualText equation) →
          name ∉ unknownNames.take n → first name = second name) →
        solve registry config first equations guess =
          solve registry config second equations guess) ∧
    (∀ {n : Nat} (values : Vector α n) (outer : Context α) (name : List Char),
      (∀ i : Fin n, unknownNames[i.val]? = some name →
        bindUnknowns values outer name = some (values.get i)) ∧
      (name ∉ unknownNames.take n → bindUnknowns values outer name = outer name)) ∧
    ∀ (session : Session α) (last : Option α) (context : Context α) (text : List Char),
      (context answerName).isSome = true →
        ({ session with lastAnswer := last }.evaluate context text).1 =
          (session.evaluate context text).1 :=
  ⟨fun _ _ _ agree => evaluate_congr agree, fun _ _ _ _ agree => solve_congr agree,
    fun _ _ _ => ⟨fun _ => bindUnknowns_of_unknown, bindUnknowns_of_free⟩,
    fun session last _ text bound => evaluate_of_bound bound session last text⟩

/-- The square root of a variable `a` does not depend on the variable `x`, nor the sum `a + 1` on
a variable `y`. A variable `Ans` hides the last answer. -/
theorem bindings_layered_square_root :
    let registry := Builtin.registry (Config.standard (α := Float))
    let config : Config Float := Config.standard
    let first : Context Float := .ofBindings [(['x'], 7), (['a'], 4), (answerName, 5)]
    let second : Context Float :=
      .ofBindings [(['x'], 9), (['a'], 4), (answerName, 5), (['y'], 1)]
    let guess : Vector Float 1 := #v[1]
    let session : Session Float := start config
    first ['x'] ≠ second ['x'] ∧ first ['y'] ≠ second ['y'] ∧
    Expression.evaluate registry first "a + 1".toList =
      Expression.evaluate registry second "a + 1".toList ∧
    solve registry config first ["x * x = a".toList] guess =
      solve registry config second ["x * x = a".toList] guess ∧
    bindUnknowns guess second ['x'] = some 1 ∧ bindUnknowns guess second ['a'] = some 4 ∧
    (first answerName).isSome = true ∧
    ({ session with lastAnswer := some 3 }.evaluate first "Ans * 2".toList).1 =
      (session.evaluate first "Ans * 2".toList).1 := by
  intro registry config first second guess session
  obtain ⟨expressions, equations, names, answers⟩ := bindings_layered registry config
  have shared : first ['a'] = second ['a'] := by
    simp [first, second, Context.ofBindings_cons]
  have inSum : tokensOf registry "a + 1".toList =
      [.identifier ['a'], .operator ['+'], .number 1] := by decide +kernel
  have inEquation : tokensOf registry (residualText "x * x = a".toList) =
      [.openParen, .identifier ['x'], .operator ['*'], .identifier ['x'], .closeParen,
        .operator ['-'], .openParen, .identifier ['a'], .closeParen] := by decide +kernel
  have sum : first.AgreeOn second (tokensOf registry "a + 1".toList) := by
    intro name mem
    rw [inSum] at mem
    obtain rfl : name = ['a'] := by simpa using mem
    exact shared
  have equation : ∀ text ∈ ["x * x = a".toList], ∀ name,
      Token.identifier name ∈ tokensOf registry (residualText text) →
        name ∉ unknownNames.take 1 → first name = second name := by
    intro text given name mem free
    rw [List.mem_singleton.mp given, inEquation] at mem
    obtain rfl | rfl : name = ['x'] ∨ name = ['a'] := by simpa using mem
    · exact absurd List.mem_cons_self free
    · exact shared
  have bound : (first answerName).isSome = true := rfl
  exact ⟨by decide +kernel, by decide +kernel, expressions _ first second sum,
    equations _ guess first second equation, (names guess second ['x']).1 0 rfl,
    (names guess second ['a']).2 (by decide), bound, answers session (some 3) first _ bound⟩

end Session

end Calculator
