import Calculator.Decimal.Layout
import Calculator.Decimal.Literal
import Calculator.Nonlinear
import Calculator.Proofs.Linear.Pivots

/-!
Newton's method on linear equations.

Where the residuals are `a x - c`, the difference quotients are the entries of `a` for every
step but zero (`jacobian_affine`), so the first step already leads to the vector that
elimination finds for `a x = c` (`advance_affine`), and every later step stays there
(`iterate_of_solution`). Main statement: `solve_of_affine`.
-/

namespace Calculator.Newton

open Linear
open scoped Calculator.Exact Matrix

variable {K : Type} [Field K] [LinearOrder K] {n : Nat}

/-! ### Residuals -/

/-- The residuals of the linear equations `a x = c` at a point. -/
def affine (a : DenseMatrix K n n) (c x : Vector K n) : Vector K n :=
  .ofFn fun i => (a.toMatrix *ᵥ x.get) i - c.get i

omit [LinearOrder K] in
@[simp] theorem get_affine (a : DenseMatrix K n n) (c x : Vector K n) (i : Fin n) :
    (affine a c x).get i = (a.toMatrix *ᵥ x.get) i - c.get i :=
  get_ofFn _ i

/-- Computing every entry succeeds if each of them does. -/
theorem ofFnM_eq_ok {ε β : Type} {f : Fin n → Except ε β} {g : Fin n → β}
    (each : ∀ i, f i = .ok (g i)) : Vector.ofFnM f = .ok (Vector.ofFn g) := by
  obtain rfl : f = fun i => pure (g i) := funext each
  exact Vector.ofFnM_pure

/-! ### One step -/

/-- Moving one coordinate moves the residuals by a multiple of a column. -/
theorem mulVec_moveOne (a : DenseMatrix K n n) (x : Vector K n) (j : Fin n) (step : K) :
    a.toMatrix *ᵥ (moveOne x j step).get = a.toMatrix *ᵥ x.get + step • fun i => a.entry i j := by
  have moved : (moveOne x j step).get = x.get + Pi.single j step := by
    ext i
    rw [moveOne, get_ofFn, Pi.add_apply, Pi.single_apply]
    split
    · rfl
    · rw [add_zero]
  rw [moved, Matrix.mulVec_add, Matrix.mulVec_single]
  ext i
  simp

variable {residuals : Residuals K n} {a : DenseMatrix K n n} {c : Vector K n}

/-- The difference quotients of linear equations are their coefficients. -/
theorem jacobian_affine (linear : ∀ x, residuals x = .ok (affine a c x)) {step : K}
    (step_ne : step ≠ 0) (x : Vector K n) :
    jacobian residuals step x (affine a c x) = .ok a := by
  have columns (j : Fin n) : ((residuals (moveOne x j step)).map fun moved =>
      Vector.ofFn fun i : Fin n => (moved.get i - (affine a c x).get i) / step) =
        .ok (a.column j) := by
    rw [linear, Except.map]
    refine congrArg _ (ext_get fun i => ?_)
    rw [get_ofFn, get_affine, get_affine, mulVec_moveOne, sub_sub_sub_cancel_right,
      Pi.add_apply, add_sub_cancel_left, Pi.smul_apply, smul_eq_mul,
      mul_div_cancel_left₀ _ step_ne, DenseMatrix.get_column]
  rw [jacobian, ofFnM_eq_ok columns]
  refine congrArg _ (DenseMatrix.ext_entry fun i j => ?_)
  rw [DenseMatrix.entry_ofFn, get_ofFn, DenseMatrix.get_column]

variable [IsStrictOrderedRing K] {config : Config K}

/-- A step leads to what elimination returns, from every point. -/
theorem advance_affine (n_pos : 0 < n) (linear : ∀ x, residuals x = .ok (affine a c x))
    (step_ne : config.differenceStep ≠ 0) (positive : 0 < config.pivotTolerance)
    (x : Vector K n) : advance residuals config x (affine a c x) =
      (gaussJordan a c config.pivotTolerance).mapError Failure.linear := by
  rw [advance, jacobian_affine linear step_ne]
  simp only [Except.mapError, Except.bind]
  rw [gaussJordan_of_pos n_pos, gaussJordan_of_pos n_pos]
  rcases eliminate_ok_or a c config.pivotTolerance with ⟨y, solved⟩ | failed
  · obtain ⟨change, done⟩ : ∃ change,
        eliminate a ((affine a c x).map (-·)) config.pivotTolerance = .ok change := by
      refine (eliminate_ok_or a _ _).resolve_right fun failed => ?_
      rw [eliminate_eq_error_iff a _ c, solved] at failed
      cases failed
    rw [solved, done]
    refine congrArg _ (ext_get fun i => ?_)
    -- the change solves `a · change = c - a x`
    have right : ((affine a c x).map (-·)).get = c.get - a.toMatrix *ᵥ x.get := by
      ext i
      have negated : ((affine a c x).map (-·)).get i = -(affine a c x).get i :=
        Vector.getElem_map _ i.isLt
      rw [negated, get_affine, neg_sub, Pi.sub_apply]
    have changes := (eliminate_sound positive done change.get).mpr rfl
    have target : change.get + x.get = y.get := by
      rw [← eliminate_sound positive solved, Matrix.mulVec_add, changes, right, sub_add_cancel]
    rw [get_ofFn]
    exact congrFun target i
  · rw [failed, (eliminate_eq_error_iff a c _ _).mp failed]
    rfl

/-! ### The iteration -/

omit [IsStrictOrderedRing K] in
/-- A point does not move away from itself. -/
theorem isStationary_self (x : Vector K n) : isStationary x x = true := by
  rw [isStationary, List.all_eq_true]
  intro i _
  rw [Arithmetic.nearlyEqual, if_pos (Exact.beq_iff.mpr rfl)]

/-- One round of the iteration on linear equations. -/
theorem iterate_succ (n_pos : 0 < n) (linear : ∀ x, residuals x = .ok (affine a c x))
    (step_ne : config.differenceStep ≠ 0) (positive : 0 < config.pivotTolerance)
    (rounds : Nat) (x : Vector K n) : iterate residuals config (rounds + 1) x =
      if Linear.norm (affine a c x) < config.residualTolerance then .ok x
      else ((gaussJordan a c config.pivotTolerance).mapError Failure.linear).bind fun next =>
        if isStationary next x then .ok next else iterate residuals config rounds next := by
  rw [← advance_affine n_pos linear step_ne positive x, iterate, linear]
  exact if_congr Exact.below_iff rfl rfl

/-- An iteration that has reached the solution stays there. -/
theorem iterate_of_solution (n_pos : 0 < n) (linear : ∀ x, residuals x = .ok (affine a c x))
    (step_ne : config.differenceStep ≠ 0) (positive : 0 < config.pivotTolerance)
    {y : Vector K n} (solved : gaussJordan a c config.pivotTolerance = .ok y) (rounds : Nat) :
    iterate residuals config rounds y = .ok y := by
  cases rounds with
  | zero => rfl
  | succ rounds =>
      rw [iterate_succ n_pos linear step_ne positive, solved, Except.mapError, Except.bind,
        if_pos (isStationary_self y), ite_self]

/-- With at least one round, the iteration ends at its start if the residuals are small
there, and otherwise with what elimination returns. -/
theorem iterate_affine (n_pos : 0 < n) (linear : ∀ x, residuals x = .ok (affine a c x))
    (step_ne : config.differenceStep ≠ 0) (positive : 0 < config.pivotTolerance)
    (rounds : Nat) (x : Vector K n) : iterate residuals config (rounds + 1) x =
      if Linear.norm (affine a c x) < config.residualTolerance then .ok x
      else (gaussJordan a c config.pivotTolerance).mapError Failure.linear := by
  rw [iterate_succ n_pos linear step_ne positive]
  congr 1
  cases solved : gaussJordan a c config.pivotTolerance with
  | error cause => rfl
  | ok y =>
      rw [Except.mapError, Except.bind,
        iterate_of_solution n_pos linear step_ne positive solved, ite_self]

end Calculator.Newton

namespace Calculator.Nonlinear

open Expression Linear Newton
open scoped Calculator.Exact Matrix

/-- A text that has a value has a postfix order. -/
theorem exists_postfixOrder {α : Type} [Numeral α] {registry : Registry α}
    {context : Context α} {text : List Char} {value : α}
    (done : evaluate registry context text = .ok value) :
    ∃ tokens, postfixOrder registry text = .ok tokens := by
  cases converted : postfixOrder registry text with
  | ok tokens => exact ⟨tokens, rfl⟩
  | error failure => simp [evaluate, converted, Except.bind] at done

variable {K : Type} [Field K] [LinearOrder K] [IsStrictOrderedRing K] [Numeral K] {n : Nat}

/-- On linear equations Newton's method agrees with elimination. If the residuals of the
equations are `a x - c` at every point `x`, the answer is the guess where their norm is below
the tolerance there, and otherwise exactly that of elimination for `a x = c`, whatever the
guess, the step of the difference quotients and the number of rounds. -/
theorem solve_of_affine {registry : Registry K} {config : Config K} {context : Context K}
    {equations : List (List Char)} {a : DenseMatrix K n n} {c : Vector K n}
    (length : equations.length = n) (n_pos : 0 < n) (few : n ≤ 6)
    (step_ne : config.differenceStep ≠ 0) (positive : 0 < config.pivotTolerance)
    (rounds_pos : 1 ≤ config.newtonRounds)
    (linear : ∀ (x : Vector K n) (i : Fin n),
      evaluate registry (bindUnknowns x context)
          (residualText (equations.get (i.cast length.symm))) =
        .ok ((a.toMatrix *ᵥ x.get) i - c.get i))
    (guess : Vector K n) : solve registry config context equations guess =
      if Linear.norm (affine a c guess) < config.residualTolerance then .ok guess
      else (gaussJordan a c config.pivotTolerance).mapError Failure.linear := by
  choose compiled converted using fun i => exists_postfixOrder (linear guess i)
  have all : ∀ x, residuals registry context (.ofFn compiled) x = .ok (affine a c x) := by
    intro x
    refine ofFnM_eq_ok fun i => ?_
    have value := linear x i
    rw [evaluate, converted] at value
    rw [get_ofFn]
    exact value
  obtain ⟨rounds, succ⟩ := Nat.exists_eq_add_of_le' rounds_pos
  rw [solve, dif_pos ⟨length, n_pos, few⟩, ofFnM_eq_ok converted]
  simp only [Except.mapError, Except.bind]
  rw [Newton.solve, succ]
  exact iterate_affine n_pos all step_ne positive rounds guess

/-- Rational numbers in decimal notation, read without rounding. -/
@[reducible] def rationalNumeral : Numeral ℚ where
  read? text := (Decimal.Literal.read? text).bind fun literal =>
    match literal.magnitude with
    | .decimal coefficient exponent =>
        some ((if literal.negative then -1 else 1) * coefficient * 10 ^ exponent)
    | _ => none
  write x := Decimal.integer x.num ++ '/' :: Decimal.digits x.den

attribute [local instance] rationalNumeral

/-- Two equations for a sum and a difference. -/
theorem solve_of_affine_sum :
    let registry : Registry ℚ := Registry.empty.registerAll
      [.infixed ['+'] .additive (.ofBinary fun x y => .ok (x + y)),
       .infixed ['-'] .additive (.ofBinary fun x y => .ok (x - y))]
    solve registry Config.standard Context.empty ["x + y = 3".toList, "x - y = 4".toList]
      (#v[0, 0] : Vector ℚ 2) = .ok #v[7 / 2, -1 / 2] := by
  intro registry
  let a : DenseMatrix ℚ 2 2 := ⟨#v[#v[1, 1], #v[1, -1]]⟩
  let c : Vector ℚ 2 := #v[3, 4]
  have sum : postfixOrder registry (residualText "x + y = 3".toList) =
      .ok [.identifier ['x'], .identifier ['y'], .operator ['+'], .number 3, .operator ['-']] := by
    decide +kernel
  have difference : postfixOrder registry (residualText "x - y = 4".toList) =
      .ok [.identifier ['x'], .identifier ['y'], .operator ['-'], .number 4, .operator ['-']] := by
    decide +kernel
  have linear : ∀ (x : Vector ℚ 2) (i : Fin 2),
      evaluate registry (bindUnknowns x Context.empty)
          (residualText (["x + y = 3".toList, "x - y = 4".toList].get i)) =
        .ok ((a.toMatrix *ᵥ x.get) i - c.get i) := by
    intro x i
    obtain ⟨p, q, rfl⟩ : ∃ p q, x = #v[p, q] :=
      ⟨x.get 0, x.get 1, ext_get fun i => by fin_cases i <;> rfl⟩
    rw [Matrix.mulVec, dotProduct, Fin.sum_univ_two]
    fin_cases i
    · change evaluate _ _ (residualText "x + y = 3".toList) = .ok (1 * p + 1 * q - 3)
      rw [evaluate, sum, one_mul, one_mul]
      rfl
    · change evaluate _ _ (residualText "x - y = 4".toList) = .ok (1 * p + -1 * q - 4)
      rw [evaluate, difference, one_mul, neg_one_mul, ← sub_eq_add_neg]
      rfl
  have answer : solve registry Config.standard _ _ _ = _ :=
    solve_of_affine (n := 2) rfl (by decide) (by decide) (by decide +kernel) (by decide +kernel)
      (by decide) linear #v[0, 0]
  have norm_eq : Linear.norm (affine a c #v[0, 0]) = 5 := by
    have square : dot (affine a c #v[0, 0]) (affine a c #v[0, 0]) = 5 * 5 := by decide +kernel
    rw [Linear.norm, square]
    exact Exact.sqrt_mul_self (by decide)
  have solved : gaussJordan a c (Config.standard (α := ℚ)).pivotTolerance =
      .ok #v[7 / 2, -1 / 2] := by
    decide +kernel
  rw [answer, norm_eq, if_neg (by decide +kernel), solved]
  rfl

end Calculator.Nonlinear
