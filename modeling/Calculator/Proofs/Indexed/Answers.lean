import Calculator.Linear.Command
import Calculator.Proofs.Indexed.Determinant
import Calculator.Proofs.Indexed.Newton
import Calculator.Proofs.Indexed.Orthogonal
import Calculator.Proofs.Indexed.System
import Calculator.Proofs.Linear.Outcomes
import Calculator.Proofs.Linear.SystemRoundTrip

/-!
What a solver can answer.

A system that is read is square and not empty, so the solvers of systems never refuse its shape:
they give as many numbers as there are unknowns, or report that there is no unique solution.
The same holds for the steps of Newton's method, whose slopes are square, and for the rounds of
the eigenvalue iteration. None of the runs on row and column numbers behind these answers leaves
a matrix or a vector. Main statement: `answers_wellShaped`.
-/

namespace Calculator.Indexed

open Arithmetic Expression Linear Nonlinear

variable {α : Type} [Arithmetic α] {n : Nat}

/-! ### Systems as text -/

section Systems

variable [Numeral α]

/-- The system in a text, behind the command word if there is one. -/
def systemPart (text : List Char) : List Char :=
  (Text.commandArgument? "cramer".toList text).getD text

def solveSystemRun (config : Config α) (text : List Char) : Run (Value α) :=
  match Text.commandArgument? "cramer".toList text with
  | some argument =>
      (readSystemRun argument).bind fun system =>
        (cramersRuleRun system.coefficients system.constants config.pivotTolerance).map .vector
  | none =>
      (readSystemRun text).bind fun system =>
        (gaussJordanRun system.coefficients system.constants config.pivotTolerance).map .vector

theorem solveSystemRun_eq (config : Config α) (text : List Char) :
    solveSystemRun config text = report .linear (solveSystem config text) := by
  rw [solveSystemRun, solveSystem]
  cases Text.commandArgument? "cramer".toList text with
  | some argument =>
      simp only [solveByCramersRule, report_bind, report_map, readSystemRun_eq,
        cramersRuleRun_eq]
  | none =>
      simp only [solveByElimination, report_bind, report_map, readSystemRun_eq,
        gaussJordanRun_eq]

/-- What solving a text can answer. -/
structure SystemAnswer (config : Config α) (text : List Char) : Prop where
  /-- One number for each unknown of the system, or no unique solution. -/
  of_read : ∀ system : System α, readSystem (systemPart text) = .ok system →
    (∃ x : Vector α system.size, solveSystem config text = .ok (.vector x)) ∨
      solveSystem config text = .error .noUniqueSolution
  unreadable_iff : solveSystem config text = .error .unreadable ↔
    ∀ system : System α, readSystem (systemPart text) ≠ .ok system
  ne_shapeMismatch : solveSystem config text ≠ .error .shapeMismatch
  run_eq : solveSystemRun config text = report .linear (solveSystem config text)
  inRange : solveSystemRun config text ≠ .error .outOfRange

/-- Both solvers are applied to what is read, and refuse no system with an unknown. -/
theorem solveSystem_eq_bind (config : Config α) (text : List Char) :
    ∃ solver : (system : System α) → Except LinearError (Vector α system.size),
      solveSystem config text = ((readSystem (systemPart text)).bind fun system =>
        (solver system).map .vector) ∧
      ∀ system, 0 < system.size →
        (∃ x, solver system = .ok x) ∨ solver system = .error .noUniqueSolution := by
  rw [solveSystem, systemPart]
  cases Text.commandArgument? "cramer".toList text with
  | some argument =>
      exact ⟨fun system => cramersRule system.coefficients system.constants config.pivotTolerance,
        rfl, fun system positive => cramersRule_ok_or positive _ _ _⟩
  | none =>
      exact ⟨fun system => gaussJordan system.coefficients system.constants config.pivotTolerance,
        rfl, fun system positive => gaussJordan_ok_or positive _ _ _⟩

theorem solveSystem_of_read (config : Config α) {text : List Char} {system : System α}
    (read : readSystem (systemPart text) = .ok system) :
    (∃ x : Vector α system.size, solveSystem config text = .ok (.vector x)) ∨
      solveSystem config text = .error .noUniqueSolution := by
  obtain ⟨solver, solves, outcome⟩ := solveSystem_eq_bind config text
  rw [solves, read]
  rcases outcome system (unknowns_of_readSystem read).2.2 with ⟨x, solved⟩ | singular
  · exact .inl ⟨x, congrArg (Except.map Value.vector) solved⟩
  · exact .inr (congrArg (Except.map Value.vector) singular)

theorem solveSystem_of_unread (config : Config α) {text : List Char}
    (unread : ∀ system : System α, readSystem (systemPart text) ≠ .ok system) :
    solveSystem config text = .error .unreadable := by
  obtain ⟨solver, solves, -⟩ := solveSystem_eq_bind config text
  rw [solves, (readSystem_eq _).2 unread]
  rfl

theorem systemAnswer (config : Config α) (text : List Char) : SystemAnswer config text := by
  have accepted {system : System α} (read : readSystem (systemPart text) = .ok system) :
      solveSystem config text ≠ .error .unreadable ∧
        solveSystem config text ≠ .error .shapeMismatch := by
    rcases solveSystem_of_read config read with ⟨x, solved⟩ | singular
    · simp [solved]
    · simp [singular]
  refine {
    of_read := fun system => solveSystem_of_read config
    unreadable_iff := ⟨fun failed system read => (accepted read).1 failed,
      solveSystem_of_unread config⟩
    ne_shapeMismatch := ?_
    run_eq := solveSystemRun_eq config text
    inRange := solveSystemRun_eq config text ▸ report_ne_outOfRange _ _ }
  by_cases reads : ∃ system : System α, readSystem (systemPart text) = .ok system
  · obtain ⟨system, read⟩ := reads
    exact (accepted read).2
  · rw [solveSystem_of_unread config (not_exists.mp reads)]
    exact fun same => nomatch same

end Systems

/-! ### Nonlinear equations -/

section Roots

variable {residuals : Newton.Residuals α n} {config : Config α} {cause : LinearError}

/-- Where a computation fails: in its first part or in its second one. -/
theorem eq_error_of_bind {ε β γ : Type} {first : Except ε β} {second : β → Except ε γ} {e : ε}
    (failed : first.bind second = .error e) :
    first = .error e ∨ ∃ x, first = .ok x ∧ second x = .error e := by
  cases first with
  | error earlier => exact .inl (by cases failed; rfl)
  | ok x => exact .inr ⟨x, rfl, failed⟩

theorem mapError_algebraic_ne {β : Type} (result : Except EvalError β) :
    result.mapError Failure.algebraic ≠ .error (.linear cause) := by
  cases result with
  | error earlier => exact fun same => nomatch same
  | ok x => exact fun same => nomatch same

/-- A step fails since the residuals cannot be evaluated or since the slopes are singular. -/
theorem noUniqueSolution_of_advance (positive : 0 < n) {x fx : Vector α n}
    (failed : Newton.advance residuals config x fx = .error (.linear cause)) :
    cause = .noUniqueSolution := by
  rcases eq_error_of_bind failed with evaluating | ⟨slopes, -, solving⟩
  · exact absurd evaluating (mapError_algebraic_ne _)
  · rcases gaussJordan_ok_or positive slopes (fx.map (-·)) config.pivotTolerance with
      ⟨change, solved⟩ | singular
    · rw [solved] at solving
      cases solving
    · rw [singular] at solving
      cases solving
      rfl

theorem noUniqueSolution_of_iterate (positive : 0 < n) : {rounds : Nat} → {x : Vector α n} →
    Newton.iterate residuals config rounds x = .error (.linear cause) →
    cause = .noUniqueSolution
  | 0, _, failed => by cases failed
  | rounds + 1, x, failed => by
      rcases eq_error_of_bind failed with evaluating | ⟨fx, -, failed⟩
      · exact absurd evaluating (mapError_algebraic_ne _)
      · split at failed
        · cases failed
        · rcases eq_error_of_bind failed with stepping | ⟨next, -, failed⟩
          · exact noUniqueSolution_of_advance positive stepping
          · split at failed
            · cases failed
            · exact noUniqueSolution_of_iterate positive failed

end Roots

section RootAnswers

variable [Numeral α] (registry : Registry α) (config : Config α) (context : Context α)
  (equations : List (List Char)) (guess : Vector α n)

/-- What solving equations can answer. -/
structure RootAnswer : Prop where
  /-- A number for each entry of the guess, an error of an expression, or no unique solution. -/
  outcome : (∃ x : Vector α n, solve registry config context equations guess = .ok x) ∨
    (∃ cause, solve registry config context equations guess = .error (.algebraic cause)) ∨
    solve registry config context equations guess = .error (.linear .noUniqueSolution)
  run_eq : solveRun registry config context equations guess =
    report id (solve registry config context equations guess)
  inRange : solveRun registry config context equations guess ≠ .error .outOfRange

theorem noUniqueSolution_of_solve {cause : LinearError}
    (failed : solve registry config context equations guess = .error (.linear cause)) :
    cause = .noUniqueSolution := by
  rw [solve] at failed
  split at failed
  · rename_i square
    rcases eq_error_of_bind failed with reading | ⟨compiled, -, failed⟩
    · exact absurd reading (mapError_algebraic_ne _)
    · exact noUniqueSolution_of_iterate square.2.1 failed
  · cases failed

theorem rootAnswer : RootAnswer registry config context equations guess where
  outcome := by
    cases answer : solve registry config context equations guess with
    | ok x => exact .inl ⟨x, rfl⟩
    | error failure =>
        cases failure with
        | algebraic cause => exact .inr (.inl ⟨cause, rfl⟩)
        | linear cause =>
            rw [noUniqueSolution_of_solve registry config context equations guess answer]
            exact .inr (.inr rfl)
  run_eq := solveRun_eq registry config context equations guess
  inRange := solveRun_eq registry config context equations guess ▸ report_ne_outOfRange _ _

end RootAnswers

/-! ### Eigenvalues -/

/-- What the eigenvalue iteration of a square matrix can answer. -/
structure EigenvalueAnswer (a : DenseMatrix α n n) (rounds : Nat) (tolerance : α) : Prop where
  /-- One number for each row. -/
  outcome : ∃ x : Vector α n, eigenvalues a rounds tolerance = .ok x
  /-- The matrix of each round is decomposed, or has no unique decomposition. -/
  rounds_ok_or : ∀ round,
    (∃ factors, gramSchmidt (iterateFactors tolerance round a) tolerance = .ok factors) ∨
      gramSchmidt (iterateFactors tolerance round a) tolerance = .error .noUniqueSolution
  run_eq : eigenvaluesRun a rounds tolerance = report .linear (eigenvalues a rounds tolerance)
  inRange : eigenvaluesRun a rounds tolerance ≠ .error .outOfRange

theorem eigenvalueAnswer (positive : 0 < n) (a : DenseMatrix α n n) (rounds : Nat)
    (tolerance : α) : EigenvalueAnswer a rounds tolerance where
  outcome := ⟨_, dif_pos ⟨positive, rfl⟩⟩
  rounds_ok_or _ := gramSchmidt_ok_or positive le_rfl _ tolerance
  run_eq := eigenvaluesRun_eq a rounds tolerance
  inRange := eigenvaluesRun_eq a rounds tolerance ▸ report_ne_outOfRange _ _

/-! ### All answers -/

/-- No solver that starts from a text or a fitting matrix reports a shape that does not match,
and no position is outside. A system gives one number for each of its unknowns, and is reported
as unreadable exactly if it cannot be read; equations give one number for each entry of the
guess, or an error of an expression; a square matrix that is not empty always gives estimates.
The only other failure is that there is no unique solution. -/
theorem answers_wellShaped [Numeral α] :
    (∀ (config : Config α) (text : List Char), SystemAnswer config text) ∧
    (∀ {n : Nat} (registry : Registry α) (config : Config α) (context : Context α)
      (equations : List (List Char)) (guess : Vector α n),
      RootAnswer registry config context equations guess) ∧
    ∀ {n : Nat}, 0 < n → ∀ (a : DenseMatrix α n n) (rounds : Nat) (tolerance : α),
      EigenvalueAnswer a rounds tolerance :=
  ⟨systemAnswer, rootAnswer, eigenvalueAnswer⟩

/-- Two equations in two unknowns, and a matrix with two rows. -/
theorem answers_wellShaped_two :
    let config := Config.standard (α := Float)
    let text := "2x + y = 5; x - y = 1".toList
    let a : DenseMatrix Float 2 2 := .ofFn fun i j => if i = j then 2 else 1
    ((∃ x : Vector Float 2, solveSystem config text = .ok (.vector x)) ∨
      solveSystem config text = .error .noUniqueSolution) ∧
    0 < 2 ∧ ∃ x : Vector Float 2, eigenvalues a 3 config.pivotTolerance = .ok x := by
  intro config text a
  obtain ⟨system, read, two⟩ := exists_readSystem_of_any (systemPart text)
    (fun system => system.size = 2) (by decide +kernel)
  have answer := (answers_wellShaped.1 config text).of_read system read
  -- The text is read by evaluation; that it has an answer is what the theorem says.
  rw [two] at answer
  exact ⟨answer, by decide, (answers_wellShaped.2.2 (by decide) a 3 config.pivotTolerance).outcome⟩

end Calculator.Indexed
