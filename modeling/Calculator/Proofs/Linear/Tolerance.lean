import Calculator.Linear.Command
import Calculator.Proofs.Linear.Course
import Calculator.Proofs.Linear.Outcomes
import Calculator.Proofs.Number.Laws

/-!
How an answer depends on the tolerance.

The tolerance is only ever compared with a pivot, a determinant or a length, none of which
depends on it. So a smaller tolerance lets through whatever a larger one does, and the answer is
the same: with the larger tolerance an answer may get lost, but it does not change (`IsStricter`).
This passes from the solvers to the answers to a text, with the exception of eigenvalues, where
the tolerance decides when the iteration ends. Main statement: `answers_with_smaller_tolerance`.
-/

namespace Calculator.Linear

open Arithmetic

variable {α β γ : Type} {m n k : Nat}

/-! ### Results that lose answers -/

/-- One result has the answer of another one, or no unique solution instead of it. -/
structure IsStricter (strict loose : Except LinearError β) : Prop where
  ok : ∀ x, strict = .ok x → loose = .ok x
  lost : ∀ x, loose = .ok x → strict = .ok x ∨ strict = .error .noUniqueSolution

namespace IsStricter

theorem refl (result : Except LinearError β) : IsStricter result result :=
  ⟨fun _ same => same, fun _ same => .inl same⟩

/-- A test that is harder to pass. -/
theorem of_imp {p q : Prop} [Decidable p] [Decidable q] (harder : p → q) (x : β) :
    IsStricter (if p then .ok x else .error .noUniqueSolution)
      (if q then .ok x else .error .noUniqueSolution) := by
  by_cases passes : p
  · rw [if_pos passes, if_pos (harder passes)]
    exact refl _
  · rw [if_neg passes]
    exact ⟨nofun, fun _ _ => .inr rfl⟩

theorem bind {strict loose : Except LinearError β} {next next' : β → Except LinearError γ}
    (first : IsStricter strict loose) (second : ∀ x, IsStricter (next x) (next' x)) :
    IsStricter (strict.bind next) (loose.bind next') := by
  refine ⟨fun y done => ?_, fun y done => ?_⟩
  · cases result : strict with
    | error cause => rw [result] at done; cases done
    | ok x =>
        rw [result] at done
        rw [first.ok x result]
        exact (second x).ok y done
  · cases result : loose with
    | error cause => rw [result] at done; cases done
    | ok x =>
        rw [result] at done
        obtain same | failed := first.lost x result
        · rw [same]
          exact (second x).lost y done
        · rw [failed]
          exact .inr rfl

theorem map {strict loose : Except LinearError β} (stricter : IsStricter strict loose)
    (f : β → γ) : IsStricter (strict.map f) (loose.map f) := by
  have as_bind (result : Except LinearError β) :
      result.map f = result.bind fun x => .ok (f x) := by
    cases result <;> rfl
  rw [as_bind, as_bind]
  exact stricter.bind fun x => refl _

end IsStricter

/-! ### The solvers -/

section Solvers

variable [Arithmetic α] [TransitiveComparison α] {small large : α}

theorem gaussJordan_isStricter (le : atMost small large = true) (a : DenseMatrix α m n)
    (b : Vector α k) : IsStricter (gaussJordan a b large) (gaussJordan a b small) := by
  by_cases square : 0 < m ∧ m = n ∧ m = k
  · obtain ⟨positive, rfl, rfl⟩ := square
    rw [gaussJordan_of_pos positive, gaussJordan_of_pos positive, eliminate_eq, eliminate_eq]
    exact .of_imp (fun all i => TransitiveComparison.atMost_trans le (all i)) _
  · rw [gaussJordan_of_not_square square, gaussJordan_of_not_square square]
    exact .refl _

theorem cramersRule_isStricter (le : atMost small large = true) (a : DenseMatrix α m n)
    (b : Vector α k) : IsStricter (cramersRule a b large) (cramersRule a b small) := by
  by_cases square : 0 < m ∧ m = n ∧ m = k
  · obtain ⟨positive, rfl, rfl⟩ := square
    rw [cramersRule_eq positive, cramersRule_eq positive]
    exact .of_imp (TransitiveComparison.atMost_trans le) _
  · rw [cramersRule_of_not_square square, cramersRule_of_not_square square]
    exact .refl _

/-- Both orthogonalisations add the same columns until the larger tolerance refuses one. -/
theorem orthogonalize_isStricter (le : atMost small large = true) (column : Fin k → Vector α m) :
    IsStricter (orthogonalize large column) (orthogonalize small column) := by
  induction k with
  | zero => exact .refl _
  | succ k ih =>
      refine (ih fun j => column j.castSucc).bind fun factors => ?_
      rw [Factors.extend_eq, Factors.extend_eq]
      exact .of_imp (TransitiveComparison.below_of_atMost le) _

theorem gramSchmidt_isStricter (le : atMost small large = true) (a : DenseMatrix α m n) :
    IsStricter (gramSchmidt a large) (gramSchmidt a small) := by
  rw [gramSchmidt, gramSchmidt]
  split
  · exact .refl _
  · exact orthogonalize_isStricter le a.column

/-! ### Texts -/

variable [Numeral α]

theorem solveSystem_isStricter (le : atMost small large = true) (config : Config α)
    (text : List Char) :
    IsStricter (solveSystem { config with pivotTolerance := large } text)
      (solveSystem { config with pivotTolerance := small } text) := by
  rw [solveSystem, solveSystem]
  split
  · exact (IsStricter.refl _).bind fun system => (cramersRule_isStricter le _ _).map _
  · exact (IsStricter.refl _).bind fun system => (gaussJordan_isStricter le _ _).map _

theorem orthogonalFactor_isStricter (le : atMost small large = true) (config : Config α)
    (text : List Char) :
    IsStricter (orthogonalFactor { config with pivotTolerance := large } text)
      (orthogonalFactor { config with pivotTolerance := small } text) :=
  (IsStricter.refl _).bind fun read => (gramSchmidt_isStricter le read.matrix).map _

theorem respond_isStricter (le : atMost small large = true) (config : Config α)
    {text : List Char} (other : Text.commandArgument? "eigen".toList text = none) :
    IsStricter (respond { config with pivotTolerance := large } text)
      (respond { config with pivotTolerance := small } text) := by
  rw [respond, respond]
  split
  · exact orthogonalFactor_isStricter le config _
  · rw [other]
    exact solveSystem_isStricter le config text

end Solvers

/-- A larger tolerance can only turn an answer into no unique solution. Whatever elimination,
Cramer's rule or the orthogonalisation gives with the larger of two tolerances, it gives with the
smaller one, and what it gives with the smaller one it gives with the larger one or finds no
unique solution. The same holds of the answers to a text that is not an `eigen` command. -/
theorem answers_with_smaller_tolerance [Arithmetic α] [TransitiveComparison α] [Numeral α]
    {small large : α} (le : atMost small large = true) :
    (∀ {m n k : Nat} (a : DenseMatrix α m n) (b : Vector α k),
      IsStricter (gaussJordan a b large) (gaussJordan a b small) ∧
        IsStricter (cramersRule a b large) (cramersRule a b small)) ∧
    (∀ {m n : Nat} (a : DenseMatrix α m n),
      IsStricter (gramSchmidt a large) (gramSchmidt a small)) ∧
    ∀ (config : Config α) (text : List Char),
      Text.commandArgument? "eigen".toList text = none →
        IsStricter (respond { config with pivotTolerance := large } text)
          (respond { config with pivotTolerance := small } text) :=
  ⟨fun a b => ⟨gaussJordan_isStricter le a b, cramersRule_isStricter le a b⟩,
    gramSchmidt_isStricter le, fun config _ => respond_isStricter le config⟩

/-- With a tolerance of one half instead of one Cramer's rule keeps its solution, and elimination
finds the one that it lost. A column and a system given as text are answered as before. -/
theorem answers_with_smaller_tolerance_half :
    let small : Float := 0.5
    let large : Float := 1
    let settings (tolerance : Float) : Config Float :=
      { Config.standard with pivotTolerance := tolerance }
    let a : DenseMatrix Float 2 2 := ⟨#v[#v[2, 1], #v[1, 1]]⟩
    let column : DenseMatrix Float 2 1 := ⟨#v[#v[3], #v[4]]⟩
    let text := "cramer 2x + y = 3; x + y = 2".toList
    atMost small large = true ∧
    cramersRule a #v[3, 2] small = .ok #v[1, 1] ∧
    gaussJordan a #v[3, 2] large = .error .noUniqueSolution ∧
    gaussJordan a #v[3, 2] small = .ok #v[1, 1] ∧
    (∃ factors, gramSchmidt column large = .ok factors ∧
      gramSchmidt column small = .ok factors) ∧
    Text.commandArgument? "eigen".toList text = none ∧
    ∃ value, respond (settings large) text = .ok value ∧
      respond (settings small) text = .ok value := by
  intro small large settings a column text
  have other : Text.commandArgument? "eigen".toList text = none := by decide +kernel
  have le : atMost small large = true := by decide +kernel
  obtain ⟨systems, matrices, texts⟩ := answers_with_smaller_tolerance le
  have solution : cramersRule a #v[3, 2] large = .ok #v[1, 1] := by decide +kernel
  obtain ⟨factors, decomposed⟩ : ∃ factors, gramSchmidt column large = .ok factors :=
    exists_value_of_isOk (by decide +kernel)
  obtain ⟨value, answered⟩ : ∃ value, respond (settings large) text = .ok value :=
    exists_value_of_isOk (by decide +kernel)
  exact ⟨le, (systems a #v[3, 2]).2.ok _ solution, by decide +kernel, by decide +kernel,
    ⟨factors, decomposed, (matrices column).ok factors decomposed⟩, other,
    value, answered, (texts Config.standard text other).ok value answered⟩

end Calculator.Linear
