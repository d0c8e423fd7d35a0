import Calculator.Proofs.Linear.Outcomes
import Calculator.Proofs.Number.OrderedField
import Mathlib.Algebra.Order.Field.Rat
import Mathlib.LinearAlgebra.Matrix.Adjugate

/-!
Cofactor expansion and Cramer's rule in an ordered field.

Without rounding, the expansion along the first row is the determinant of Leibniz
(`determinant_eq_det`), by induction on the dimension. The quotients of Cramer's rule then
solve the system, whatever magnitude of the determinant passes the test.
-/

namespace Calculator.Linear

open scoped Calculator.Exact Matrix

variable {K : Type} [Field K] [LinearOrder K] {n : Nat}

/-! ### Determinants -/

omit [LinearOrder K] in
/-- Adding terms one by one onto a first value. -/
theorem foldl_add_eq_sum (first : K) (term : Fin n → K) :
    Fin.foldl n (fun sum i => sum + term i) first = first + ∑ i, term i := by
  induction n generalizing first with
  | zero => simp
  | succ n ih => rw [Fin.foldl_succ, ih, Fin.sum_univ_succ, add_assoc]

theorem sumTerms_eq_sum : ∀ {n : Nat} (term : Fin n → K), sumTerms term = ∑ i, term i
  | 0, _ => by simp [sumTerms]
  | n + 1, term => by rw [sumTerms, foldl_add_eq_sum, Fin.sum_univ_succ]

theorem cofactorSign_eq (j : Nat) : (cofactorSign j : K) = (-1) ^ j := by
  unfold cofactorSign
  split
  · rename_i even
    rw [Even.neg_one_pow (Nat.even_iff.mpr even)]
  · rename_i odd
    rw [Odd.neg_one_pow (Nat.odd_iff.mpr (Nat.mod_two_ne_zero.mp odd))]

/-- The expansion along the first row is the determinant. -/
theorem determinant_eq_det : ∀ {n : Nat} (a : DenseMatrix K n n),
    determinant a = a.toMatrix.det
  | 0, _ => by simp [determinant]
  | 1, a => by simp [determinant]
  | n + 2, a => by
      rw [determinant, sumTerms_eq_sum, Matrix.det_succ_row_zero]
      refine Finset.sum_congr rfl fun j _ => ?_
      rw [cofactorSign_eq, determinant_eq_det (a.minor 0 j), DenseMatrix.toMatrix_minor]
      rfl

/-! ### Cramer's rule -/

theorem cramersRule_of_pos (positive : 0 < n) (a : DenseMatrix K n n) (b : Vector K n)
    (tolerance : K) :
    cramersRule a b tolerance =
      if tolerance ≤ |a.toMatrix.det| then
        .ok (.ofFn fun i => a.toMatrix.cramer b.get i / a.toMatrix.det)
      else .error .noUniqueSolution := by
  rw [cramersRule_eq positive]
  simp only [determinant_eq_det, DenseMatrix.toMatrix_replaceColumn, Exact.atMost_iff,
    Exact.abs_eq, Matrix.cramer_apply]

omit [LinearOrder K] in
/-- The quotients of Cramer's rule solve the system. -/
theorem mulVec_cramer_div {a : Matrix (Fin n) (Fin n) K} (nonzero : a.det ≠ 0)
    (b : Fin n → K) : a *ᵥ (fun i => a.cramer b i / a.det) = b := by
  have scaled : (fun i => a.cramer b i / a.det) = a.det⁻¹ • a.cramer b := by
    ext i
    simp [div_eq_inv_mul]
  rw [scaled, Matrix.mulVec_smul, Matrix.mulVec_cramer, inv_smul_smul₀ nonzero]

variable [IsStrictOrderedRing K]

/-- The expansion along the first row is the sum over all permutations of their sign times
the product of the entries they pick. Cramer's rule fails exactly if the magnitude of that
determinant is below the tolerance, and otherwise it solves the system. -/
theorem cramersRule_correct :
    (∀ {n : Nat} (a : DenseMatrix K n n), determinant a =
      ∑ σ : Equiv.Perm (Fin n), ((Equiv.Perm.sign σ : ℤ) : K) * ∏ i, a.entry (σ i) i) ∧
    ∀ {n : Nat}, 0 < n → ∀ (a : DenseMatrix K n n) (b : Vector K n) (tolerance : K),
      0 < tolerance →
        (cramersRule a b tolerance = .error .noUniqueSolution ↔ |a.toMatrix.det| < tolerance) ∧
        (¬ |a.toMatrix.det| < tolerance →
          ∃ x, cramersRule a b tolerance = .ok x ∧ a.toMatrix *ᵥ x.get = b.get) := by
  constructor
  · intro n a
    rw [determinant_eq_det, Matrix.det_apply']
    rfl
  · intro n n_pos a b tolerance positive
    rw [cramersRule_of_pos n_pos]
    by_cases small : |a.toMatrix.det| < tolerance
    · simp [small, not_le.mpr small]
    · have large := not_lt.mp small
      have nonzero : a.toMatrix.det ≠ 0 := abs_pos.mp (positive.trans_le large)
      rw [if_pos large]
      refine ⟨by simp [small], ?_⟩
      intro _
      refine ⟨_, rfl, ?_⟩
      rw [funext (get_ofFn fun i => a.toMatrix.cramer b.get i / a.toMatrix.det)]
      exact mulVec_cramer_div nonzero b.get

/-- A system of three equations, and the same tolerance on a matrix of determinant zero. -/
theorem cramersRule_correct_three :
    let regular : DenseMatrix ℚ 3 3 := ⟨#v[#v[2, 1, 0], #v[1, 3, 2], #v[1, 1, 1]]⟩
    let singular : DenseMatrix ℚ 3 3 := ⟨#v[#v[1, 2, 3], #v[4, 5, 6], #v[7, 8, 9]]⟩
    determinant regular = 3 ∧ ¬ |regular.toMatrix.det| < 1 / 10 ^ 9 ∧
      (∃ x, cramersRule regular #v[4, 13, 6] (1 / 10 ^ 9) = .ok x ∧
        regular.toMatrix *ᵥ x.get = (#v[4, 13, 6] : Vector ℚ 3).get) ∧
      |singular.toMatrix.det| < 1 / 10 ^ 9 ∧
      cramersRule singular #v[1, 1, 1] (1 / 10 ^ 9) = .error .noUniqueSolution := by
  intro regular singular
  have value : determinant regular = 3 := by decide +kernel
  have large : ¬ |regular.toMatrix.det| < 1 / 10 ^ 9 := by
    rw [← determinant_eq_det, value]
    decide +kernel
  have small : |singular.toMatrix.det| < 1 / 10 ^ 9 := by
    rw [← determinant_eq_det]
    decide +kernel
  have correct := (cramersRule_correct (K := ℚ)).2 (n := 3) (by decide)
  exact ⟨value, large,
    (correct regular #v[4, 13, 6] (1 / 10 ^ 9) (by decide +kernel)).2 large, small,
    (correct singular #v[1, 1, 1] (1 / 10 ^ 9) (by decide +kernel)).1.mpr small⟩

end Calculator.Linear
