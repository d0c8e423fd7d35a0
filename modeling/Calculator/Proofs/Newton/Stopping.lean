import Calculator.Expression.Builtin
import Calculator.Nonlinear
import Calculator.Number.Double
import Calculator.Proofs.Linear.Matrix

/-!
Where Newton's method stops.

`estimate` numbers the estimates that the steps lead to, whether or not the iteration gets
that far, and `IsFinal` lists what ends it: small residuals, a step that does not move the
estimate any more, and the last round. The iteration gives the first estimate that fails or
is final (`solve_eq_estimate`). Main statement: `solve_eq_ok_iff`. Without the second of the
three ends it would be false (`solve_of_tiny_step`).
-/

namespace Calculator.Newton

open Arithmetic Linear

variable {α : Type} [Arithmetic α] {n : Nat}

/-! ### Estimates -/

section Estimates

variable (residuals : Residuals α n) (config : Config α)

/-- The estimate that a step leads to from `x`. -/
def next (x : Vector α n) : Except Failure (Vector α n) :=
  ((residuals x).mapError Failure.algebraic).bind (advance residuals config x)

def estimate (guess : Vector α n) : Nat → Except Failure (Vector α n)
  | 0 => .ok guess
  | k + 1 => (estimate guess k).bind (next residuals config)

def HasSmallResiduals (x : Vector α n) : Prop :=
  ∃ fx, residuals x = .ok fx ∧ below (norm fx) config.residualTolerance = true

/-- What ends the iteration at its estimate `x` with the number `k`. -/
inductive IsFinal (guess : Vector α n) : (k : Nat) → (x : Vector α n) → Prop where
  | converged {k : Nat} {x : Vector α n} : k < config.newtonRounds →
      HasSmallResiduals residuals config x → IsFinal guess k x
  | stationary {k : Nat} {previous x : Vector α n} :
      estimate residuals config guess k = .ok previous → isStationary x previous = true →
      IsFinal guess (k + 1) x
  | exhausted {x : Vector α n} : IsFinal guess config.newtonRounds x

/-- None of the estimates before the one with the number `k` fails or is final. -/
def Reaches (guess : Vector α n) (k : Nat) : Prop :=
  ∀ j < k, ∃ x, estimate residuals config guess j = .ok x ∧
    ¬ IsFinal residuals config guess j x

/-- The iteration is about to test its estimate `x` with the number `k`: a step that did not
move it would have ended the iteration already. -/
structure Tests (guess : Vector α n) (k : Nat) (x : Vector α n) : Prop where
  reached : Reaches residuals config guess k
  isEstimate : estimate residuals config guess k = .ok x
  moved : ∀ {j previous}, k = j + 1 → estimate residuals config guess j = .ok previous →
    isStationary x previous = false

end Estimates

variable {residuals : Residuals α n} {config : Config α} {guess x y : Vector α n}
  {k rounds : Nat}

theorem Reaches.succ (reached : Reaches residuals config guess k)
    (isEstimate : estimate residuals config guess k = .ok x)
    (going : ¬ IsFinal residuals config guess k x) :
    Reaches residuals config guess (k + 1) := by
  intro j less
  rcases Nat.lt_succ_iff_lt_or_eq.mp less with earlier | rfl
  · exact reached j earlier
  · exact ⟨x, isEstimate, going⟩

/-- Only one estimate is the first that fails or is final. -/
theorem Reaches.unique {l : Nat} (reached : Reaches residuals config guess k)
    (final : ∀ x, estimate residuals config guess k = .ok x →
      IsFinal residuals config guess k x)
    (reached' : Reaches residuals config guess l)
    (final' : ∀ x, estimate residuals config guess l = .ok x →
      IsFinal residuals config guess l x) : k = l := by
  rcases Nat.lt_trichotomy k l with less | same | greater
  · obtain ⟨x, isEstimate, going⟩ := reached' k less
    exact absurd (final x isEstimate) going
  · exact same
  · obtain ⟨x, isEstimate, going⟩ := reached l greater
    exact absurd (final' x isEstimate) going

/-! ### One round -/

/-- A round ends the iteration at once where the residuals are small. -/
theorem iterate_of_small (small : HasSmallResiduals residuals config x) :
    iterate residuals config (rounds + 1) x = .ok x := by
  obtain ⟨fx, value, small⟩ := small
  rw [iterate, value]
  exact if_pos small

/-- Elsewhere a round takes a step, and ends the iteration if that fails or does not move the
estimate. -/
theorem iterate_of_large (large : ¬ HasSmallResiduals residuals config x) :
    iterate residuals config (rounds + 1) x = (next residuals config x).bind fun y =>
      if isStationary y x then .ok y else iterate residuals config rounds y := by
  rw [iterate, next]
  cases value : residuals x with
  | error cause => rfl
  | ok fx => exact if_neg fun small => large ⟨fx, value, small⟩

theorem Tests.not_isFinal (test : Tests residuals config guess k x)
    (early : k < config.newtonRounds) (large : ¬ HasSmallResiduals residuals config x) :
    ¬ IsFinal residuals config guess k x := by
  intro final
  cases final with
  | converged _ small => exact large small
  | stationary isEstimate still => simp [test.moved rfl isEstimate] at still
  | exhausted => exact Nat.lt_irrefl _ early

theorem Tests.estimate_succ (test : Tests residuals config guess k x) :
    estimate residuals config guess (k + 1) = next residuals config x := by
  rw [estimate, test.isEstimate]
  rfl

/-! ### The iteration -/

/-- The rounds that are left when an estimate is tested give the first estimate that fails or
is final. -/
theorem Tests.iterate_eq (test : Tests residuals config guess k x)
    (left : k + rounds = config.newtonRounds) :
    ∃ l ≤ config.newtonRounds,
      iterate residuals config rounds x = estimate residuals config guess l ∧
      (∀ y, estimate residuals config guess l = .ok y → IsFinal residuals config guess l y) ∧
      Reaches residuals config guess l := by
  induction rounds generalizing k x with
  | zero =>
      obtain rfl : k = config.newtonRounds := left
      exact ⟨_, Nat.le_refl _, test.isEstimate.symm, fun _ _ => .exhausted, test.reached⟩
  | succ rounds ih =>
      have early : k < config.newtonRounds := by omega
      by_cases small : HasSmallResiduals residuals config x
      · refine ⟨k, Nat.le_of_lt early, ?_, fun y same => ?_, test.reached⟩
        · rw [iterate_of_small small, test.isEstimate]
        · cases test.isEstimate.symm.trans same
          exact .converged early small
      · have reached := test.reached.succ test.isEstimate (test.not_isFinal early small)
        have following := test.estimate_succ
        rw [iterate_of_large small, ← following]
        cases stepped : estimate residuals config guess (k + 1) with
        | error cause =>
            refine ⟨k + 1, early, stepped.symm, fun y same => ?_, reached⟩
            cases stepped.symm.trans same
        | ok y =>
            change ∃ l ≤ _, (if isStationary y x then _ else _) = _ ∧ _
            cases still : isStationary y x with
            | true =>
                refine ⟨k + 1, early, stepped.symm, fun z same => ?_, reached⟩
                cases stepped.symm.trans same
                exact .stationary test.isEstimate still
            | false =>
                refine ih ⟨reached, stepped, ?_⟩ (by omega)
                intro j previous succ isEstimate
                cases succ
                cases test.isEstimate.symm.trans isEstimate
                exact still

/-- The iteration gives the first of its estimates that fails or is final. -/
theorem solve_eq_estimate (residuals : Residuals α n) (config : Config α) (guess : Vector α n) :
    ∃ k ≤ config.newtonRounds, solve residuals config guess = estimate residuals config guess k ∧
      (∀ x, estimate residuals config guess k = .ok x → IsFinal residuals config guess k x) ∧
      Reaches residuals config guess k := by
  have test : Tests residuals config guess 0 guess := by
    refine ⟨fun j less => absurd less (Nat.not_lt_zero j), rfl, fun succ => ?_⟩
    cases succ
  exact test.iterate_eq (Nat.zero_add _)

/-- An answer of the iteration is its first final estimate. -/
theorem eq_ok_iff_isFinal : solve residuals config guess = .ok x ↔
    ∃ k ≤ config.newtonRounds, estimate residuals config guess k = .ok x ∧
      IsFinal residuals config guess k x ∧ Reaches residuals config guess k := by
  obtain ⟨k, bound, same, final, reached⟩ := solve_eq_estimate residuals config guess
  constructor
  · intro answer
    rw [same] at answer
    exact ⟨k, bound, answer, final x answer, reached⟩
  · rintro ⟨l, -, isEstimate, isFinal, reached'⟩
    obtain rfl : k = l := by
      refine reached.unique final reached' fun y same => ?_
      cases isEstimate.symm.trans same
      exact isFinal
    rw [same, isEstimate]

end Calculator.Newton

namespace Calculator.Nonlinear

open Expression Linear Newton

variable {α : Type} [Arithmetic α] [Numeral α] {n : Nat}

/-- The postfix orders of the residuals of equations. -/
def IsCompiled (registry : Registry α) (equations : List (List Char))
    (compiled : Vector (List (Token α)) n) : Prop :=
  equations.map (fun equation => postfixOrder registry (residualText equation)) =
    compiled.toList.map .ok

variable {registry : Registry α} {config : Config α} {context : Context α}
  {equations : List (List Char)} {compiled : Vector (List (Token α)) n} {guess x : Vector α n}

omit [Arithmetic α] in
theorem isCompiled_iff (length : equations.length = n) :
    IsCompiled registry equations compiled ↔ ∀ i : Fin n,
      postfixOrder registry (residualText (equations.get (i.cast length.symm))) =
        .ok (compiled.get i) := by
  rw [IsCompiled, List.ext_getElem_iff]
  simp only [List.length_map, Vector.length_toList, List.getElem_map, Vector.getElem_toList]
  exact ⟨fun same i => same.2 i (i.cast length.symm).isLt i.isLt,
    fun each => ⟨length, fun i _ less => each ⟨i, less⟩⟩⟩

/-- Newton's method on equations is the iteration on their residuals. -/
theorem solve_eq_ok_iff_exists : solve registry config context equations guess = .ok x ↔
    0 < n ∧ n ≤ unknownNames.length ∧ ∃ compiled, IsCompiled registry equations compiled ∧
      Newton.solve (residuals registry context compiled) config guess = .ok x := by
  constructor
  · intro answer
    unfold solve at answer
    split at answer
    · rename_i square
      cases read : Vector.ofFnM fun i : Fin n =>
          postfixOrder registry (residualText (equations.get (i.cast square.1.symm))) with
      | error cause => rw [read] at answer; cases answer
      | ok compiled =>
          rw [read] at answer
          exact ⟨square.2.1, square.2.2, compiled,
            (isCompiled_iff square.1).mpr (ofFnM_eq_ok_iff.mp read), answer⟩
    · cases answer
  · rintro ⟨n_pos, few, compiled, isCompiled, answer⟩
    have length : equations.length = n := by simpa using congrArg List.length isCompiled
    rw [solve, dif_pos ⟨length, n_pos, few⟩,
      ofFnM_eq_ok_iff.mpr ((isCompiled_iff length).mp isCompiled)]
    exact answer

/-- Where Newton's method stops. It answers with `x` if there are as many equations as
unknowns, all of them can be read, and `x` is the first of the estimates from the guess that is
final: its residuals are below the tolerance, it agrees with the estimate before it, or the
rounds are used up. -/
theorem solve_eq_ok_iff : solve registry config context equations guess = .ok x ↔
    0 < n ∧ n ≤ unknownNames.length ∧ ∃ compiled, IsCompiled registry equations compiled ∧
      ∃ k ≤ config.newtonRounds,
        estimate (residuals registry context compiled) config guess k = .ok x ∧
        IsFinal (residuals registry context compiled) config guess k x ∧
        Reaches (residuals registry context compiled) config guess k := by
  simp only [solve_eq_ok_iff_exists, eq_ok_iff_isFinal]

/-- Where the residuals are steep, a tiny step ends the iteration far from a solution: of two
rounds for `1e40 x² = 1` from zero only the first is used, although the residual is still `-1`
behind it and the second would move on. -/
theorem solve_of_tiny_step :
    let registry := Builtin.registry (Config.standard (α := Float))
    let config := { Config.standard (α := Float) with newtonRounds := 2 }
    let equations := ["1e40 * x * x = 1".toList]
    let guess : Vector Float 1 := #v[0]
    ∃ compiled x, IsCompiled registry equations compiled ∧
      solve registry config Context.empty equations guess = .ok x ∧
      ¬ ∃ k ≤ config.newtonRounds,
        estimate (residuals registry Context.empty compiled) config guess k = .ok x ∧
        (k < config.newtonRounds →
          HasSmallResiduals (residuals registry Context.empty compiled) config x) ∧
        ∀ j < k, ∃ y,
          estimate (residuals registry Context.empty compiled) config guess j = .ok y ∧
          ¬ HasSmallResiduals (residuals registry Context.empty compiled) config y := by
  intro registry config equations guess
  let number (coefficient : Nat) (power : Int) : Float :=
    Double.ofLiteral ⟨false, .decimal coefficient power⟩
  let compiled : Vector (List (Token Float)) 1 :=
    #v[[.number (number 1 40), .identifier ['x'], .operator ['*'], .identifier ['x'],
      .operator ['*'], .number (number 1 0), .operator ['-']]]
  let x : Vector Float 1 := #v[number 9999999999999999 (-51)]
  have second : estimate (residuals registry Context.empty compiled) config guess 2 ≠ .ok x := by
    decide +kernel
  have value : residuals registry Context.empty compiled x = .ok #v[-number 1 0] := by
    decide +kernel
  refine ⟨compiled, x, by unfold IsCompiled; decide +kernel, by decide +kernel, ?_⟩
  rintro ⟨k, bound, isEstimate, small, -⟩
  rcases Nat.lt_or_eq_of_le bound with early | rfl
  · obtain ⟨fx, value', small⟩ := small early
    cases value.symm.trans value'
    exact absurd small (by decide +kernel)
  · exact second isEstimate

end Calculator.Nonlinear
