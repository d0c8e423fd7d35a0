import Calculator.Proofs.Linear.ExactDeterminant
import Calculator.Proofs.Linear.Outcomes
import Mathlib.Analysis.Real.Sqrt
import Mathlib.LinearAlgebra.Matrix.Block
import Mathlib.LinearAlgebra.Matrix.DotProduct
import Mathlib.LinearAlgebra.Matrix.ToLin

/-!
Gram-Schmidt orthogonalisation in the real numbers.

Without rounding, the factors of a matrix are an orthonormal matrix and an upper triangular one
whose product it is. Adding a column keeps this (`IsDecomposition.extend`), since what is left
of the column is orthogonal to all columns before it. Conversely, such factors leave no choice
and so are the ones computed (`gramSchmidt_eq_ok_iff`). A column is refused only if little of it
is left, and of one that does not depend on those before it something is. Main statement:
`gramSchmidt_decomposes`.
-/

namespace Calculator.Linear

open scoped Calculator.Exact Matrix

variable {m n k : Nat}

/-! ### Products and lengths -/

theorem dot_eq (u v : Vector ℝ n) : dot u v = u.get ⬝ᵥ v.get := by
  rw [dot, foldl_add_eq_sum, zero_add, dotProduct]

theorem dotProduct_self_nonneg (v : Fin n → ℝ) : 0 ≤ v ⬝ᵥ v :=
  Finset.sum_nonneg fun i _ => mul_self_nonneg (v i)

theorem norm_eq (v : Vector ℝ n) : norm v = √(v.get ⬝ᵥ v.get) := by
  have root := Real.mul_self_sqrt (dotProduct_self_nonneg v.get)
  rw [norm, dot_eq, ← root, Exact.sqrt_mul_self (Real.sqrt_nonneg _), root]

theorem norm_mul_self (v : Vector ℝ n) : norm v * norm v = v.get ⬝ᵥ v.get := by
  rw [norm_eq, Real.mul_self_sqrt (dotProduct_self_nonneg v.get)]

/-- Only the zero vector has no length. -/
theorem norm_pos (v : Vector ℝ n) (nonzero : v.get ≠ 0) : 0 < norm v := by
  rw [norm_eq, Real.sqrt_pos]
  exact (dotProduct_self_nonneg _).lt_of_ne' (dotProduct_self_eq_zero.not.mpr nonzero)

theorem get_map_div (v : Vector ℝ n) (x : ℝ) : (v.map (· / x)).get = x⁻¹ • v.get := by
  ext i
  have entry : (v.map (· / x)).get i = v.get i / x := Vector.getElem_map _ i.isLt
  rw [entry, Pi.smul_apply, smul_eq_mul, div_eq_inv_mul]

/-- A vector divided by its length has length one. -/
theorem dotProduct_self_normalized (v : Vector ℝ n) (norm_ne : norm v ≠ 0) :
    ((norm v)⁻¹ • v.get) ⬝ᵥ ((norm v)⁻¹ • v.get) = 1 := by
  rw [smul_dotProduct, dotProduct_smul, ← norm_mul_self, smul_eq_mul, smul_eq_mul,
    inv_mul_cancel_left₀ norm_ne, inv_mul_cancel₀ norm_ne]

/-! ### The parts of a step -/

/-- Subtracting vectors one by one. -/
theorem get_foldl_sub (f : Fin k → Fin m → ℝ) (v : Vector ℝ m) :
    (Fin.foldl k (fun rest j => Vector.ofFn fun i => rest.get i - f j i) v).get =
      v.get - ∑ j, f j := by
  induction k generalizing v with
  | zero => simp
  | succ k ih =>
      rw [Fin.foldl_succ, ih, Fin.sum_univ_succ, ← sub_sub]
      congr 1
      ext i
      rw [get_ofFn, Pi.sub_apply]

/-- What is left of a vector. -/
theorem get_subtractProjections (q : DenseMatrix ℝ m k) (p : Vector ℝ k) (v : Vector ℝ m) :
    (subtractProjections q p v).get = v.get - q.toMatrix *ᵥ p.get := by
  rw [subtractProjections, get_foldl_sub fun j i => q.entry i j * p.get j]
  congr 1
  ext i
  rw [Finset.sum_apply]
  rfl

theorem get_projections (q : DenseMatrix ℝ m k) (v : Vector ℝ m) :
    (projections q v).get = q.toMatrixᵀ *ᵥ v.get := by
  ext j
  have column : (q.column j).get = q.toMatrixᵀ j := funext fun i => DenseMatrix.get_column q j i
  rw [projections, get_ofFn, dot_eq, column]
  rfl

theorem get_leftover (q : DenseMatrix ℝ m k) (v : Vector ℝ m) :
    (leftover q v).get = v.get - q.toMatrix *ᵥ (q.toMatrixᵀ *ᵥ v.get) := by
  rw [leftover, get_subtractProjections, get_projections]

/-- What is left of a vector is orthogonal to orthonormal columns. -/
theorem transpose_mulVec_leftover {q : DenseMatrix ℝ m k}
    (orthonormal : q.toMatrixᵀ * q.toMatrix = 1) (v : Vector ℝ m) :
    q.toMatrixᵀ *ᵥ (leftover q v).get = 0 := by
  rw [get_leftover, Matrix.mulVec_sub, Matrix.mulVec_mulVec, orthonormal, Matrix.one_mulVec,
    sub_self]

theorem extend_eq (tolerance : ℝ) (factors : Factors ℝ m k) (v : Vector ℝ m) :
    factors.extend tolerance v =
      if tolerance < norm (leftover factors.q v) then
        .ok ⟨factors.q.appendColumn
            ((leftover factors.q v).map (· / norm (leftover factors.q v))),
          border factors.r (projections factors.q v) (norm (leftover factors.q v))⟩
      else .error .noUniqueSolution :=
  (factors.extend_eq tolerance v).trans (if_congr Exact.below_iff rfl rfl)

/-! ### Decompositions -/

def ofColumns (column : Fin k → Vector ℝ m) : Matrix (Fin m) (Fin k) ℝ :=
  .of fun i j => (column j).get i

/-- Factors of a matrix: the first is orthonormal, and the second upper triangular with a
diagonal above the tolerance. -/
structure IsDecomposition (tolerance : ℝ) (a : Matrix (Fin m) (Fin k) ℝ)
    (factors : Factors ℝ m k) : Prop where
  orthonormal : factors.q.toMatrixᵀ * factors.q.toMatrix = 1
  product : factors.q.toMatrix * factors.r.toMatrix = a
  upper : factors.r.toMatrix.IsUpperTriangular
  diagonal : ∀ i, tolerance < factors.r.entry i i

/-- Orthonormal columns with one more of length one that is orthogonal to them. -/
theorem transpose_mul_appendColumn {q : DenseMatrix ℝ m k} {u : Vector ℝ m}
    (orthonormal : q.toMatrixᵀ * q.toMatrix = 1) (orthogonal : q.toMatrixᵀ *ᵥ u.get = 0)
    (unit : u.get ⬝ᵥ u.get = 1) :
    (q.appendColumn u).toMatrixᵀ * (q.appendColumn u).toMatrix = 1 := by
  have inner (i : Fin k) : ∑ r, q.entry r i * u.get r = 0 := congrFun orthogonal i
  ext i j
  simp only [Matrix.mul_apply, Matrix.transpose_apply, DenseMatrix.toMatrix_apply]
  induction i using Fin.lastCases with
  | last =>
      induction j using Fin.lastCases with
      | last => simpa [dotProduct] using unit
      | cast j => simpa [mul_comm, Matrix.one_apply, (Fin.castSucc_lt_last j).ne'] using inner j
  | cast i =>
      induction j using Fin.lastCases with
      | last => simpa [Matrix.one_apply, (Fin.castSucc_lt_last i).ne] using inner i
      | cast j =>
          have entry := congrFun (congrFun orthonormal i) j
          simpa [Matrix.mul_apply, Matrix.one_apply] using entry

/-- The product of the factors with a new column, which has a part along the old columns and a
part along the new one. -/
theorem appendColumn_mul_border {q : DenseMatrix ℝ m k} {r : DenseMatrix ℝ k k}
    {u : Vector ℝ m} {above : Vector ℝ k} {corner : ℝ} {column : Fin (k + 1) → Vector ℝ m}
    (product : q.toMatrix * r.toMatrix = ofColumns fun j => column j.castSucc)
    (parts : q.toMatrix *ᵥ above.get + corner • u.get = (column (Fin.last k)).get) :
    (q.appendColumn u).toMatrix * (border r above corner).toMatrix = ofColumns column := by
  ext i j
  rw [Matrix.mul_apply, Fin.sum_univ_castSucc]
  induction j using Fin.lastCases with
  | last =>
      have entry := congrFun parts i
      simpa [Matrix.mulVec, dotProduct, ofColumns, mul_comm] using entry
  | cast j =>
      have entry := congrFun (congrFun product i) j
      simpa [Matrix.mul_apply, ofColumns] using entry

/-- A step keeps the decomposition. -/
theorem IsDecomposition.extend {tolerance : ℝ} (nonneg : 0 ≤ tolerance)
    {column : Fin (k + 1) → Vector ℝ m} {factors : Factors ℝ m k}
    {extended : Factors ℝ m (k + 1)}
    (before : IsDecomposition tolerance (ofColumns fun j => column j.castSucc) factors)
    (done : factors.extend tolerance (column (Fin.last k)) = .ok extended) :
    IsDecomposition tolerance (ofColumns column) extended := by
  have upper : extended.IsUpper := .extend (fun _ _ below => before.upper below) done
  rw [extend_eq] at done
  split at done
  · rename_i long
    cases done
    have norm_ne : norm (leftover factors.q (column (Fin.last k))) ≠ 0 :=
      (nonneg.trans_lt long).ne'
    refine ⟨transpose_mul_appendColumn before.orthonormal ?_ ?_,
      appendColumn_mul_border before.product ?_, fun _ _ below => upper _ _ below, ?_⟩
    · rw [get_map_div, Matrix.mulVec_smul, transpose_mulVec_leftover before.orthonormal, smul_zero]
    · rw [get_map_div]
      exact dotProduct_self_normalized _ norm_ne
    · rw [get_map_div, smul_inv_smul₀ norm_ne, get_leftover, get_projections, add_sub_cancel]
    · intro i
      induction i using Fin.lastCases with
      | last => simpa using long
      | cast i => simpa using before.diagonal i
  · cases done

/-- What is computed is a decomposition. -/
theorem isDecomposition_of_orthogonalize {tolerance : ℝ} (nonneg : 0 ≤ tolerance)
    {column : Fin k → Vector ℝ m} {factors : Factors ℝ m k}
    (done : orthogonalize tolerance column = .ok factors) :
    IsDecomposition tolerance (ofColumns column) factors := by
  induction k with
  | zero => exact ⟨Subsingleton.elim _ _, Subsingleton.elim _ _, fun i => i.elim0, fun i => i.elim0⟩
  | succ k ih =>
      obtain ⟨before, front, added⟩ := orthogonalize_succ_eq_ok done
      exact (ih front).extend nonneg added

/-- The second factor has the inner products of the columns. -/
theorem IsDecomposition.transpose_mul_self {tolerance : ℝ} {a : Matrix (Fin m) (Fin k) ℝ}
    {factors : Factors ℝ m k} (decomposed : IsDecomposition tolerance a factors) :
    factors.r.toMatrixᵀ * factors.r.toMatrix = aᵀ * a := by
  rw [← decomposed.product, Matrix.transpose_mul, Matrix.mul_assoc,
    ← Matrix.mul_assoc factors.q.toMatrixᵀ, decomposed.orthonormal, Matrix.one_mul]

/-! ### Decompositions are unique -/

/-- Upper triangular factors of at least one column are those of the columns before with one
more. -/
theorem Factors.IsUpper.exists_border {factors : Factors ℝ m (k + 1)} (upper : factors.IsUpper) :
    ∃ (before : Factors ℝ m k) (u : Vector ℝ m) (above : Vector ℝ k) (corner : ℝ),
      factors = ⟨before.q.appendColumn u, border before.r above corner⟩ := by
  refine ⟨⟨.ofFn fun i j => factors.q.entry i j.castSucc,
      .ofFn fun i j => factors.r.entry i.castSucc j.castSucc⟩,
    factors.q.column (Fin.last k), .ofFn fun i => factors.r.entry i.castSucc (Fin.last k),
    factors.r.entry (Fin.last k) (Fin.last k), ?_⟩
  refine congrArg₂ Factors.mk (DenseMatrix.ext_entry fun i j => ?_)
    (DenseMatrix.ext_entry fun i j => ?_)
  · induction j using Fin.lastCases with
    | last => simp
    | cast j => simp
  · induction i using Fin.lastCases with
    | last =>
        induction j using Fin.lastCases with
        | last => simp
        | cast j => simpa using upper _ _ (Fin.castSucc_lt_last j)
    | cast i =>
        induction j using Fin.lastCases with
        | last => simp
        | cast j => simp

section Border

variable {tolerance : ℝ} {q : DenseMatrix ℝ m k} {r : DenseMatrix ℝ k k} {u : Vector ℝ m}
  {above : Vector ℝ k} {corner : ℝ} {column : Fin (k + 1) → Vector ℝ m}

/-- A decomposition of columns contains one of the columns before the last. -/
theorem IsDecomposition.front (decomposed : IsDecomposition tolerance (ofColumns column)
    ⟨q.appendColumn u, border r above corner⟩) :
    IsDecomposition tolerance (ofColumns fun j => column j.castSucc) ⟨q, r⟩ := by
  obtain ⟨orthonormal, product, upper, diagonal⟩ := decomposed
  refine ⟨?_, ?_, fun i j below => ?_, fun i => ?_⟩
  · ext i j
    have entry := congrFun (congrFun orthonormal i.castSucc) j.castSucc
    simpa [Matrix.mul_apply, Matrix.one_apply] using entry
  · ext i j
    have entry := congrFun (congrFun product i) j.castSucc
    simpa [Matrix.mul_apply, Fin.sum_univ_castSucc, ofColumns] using entry
  · have entry : (border r above corner).entry i.castSucc j.castSucc = 0 :=
      upper (Fin.castSucc_lt_castSucc_iff.mpr below)
    rwa [entry_border_castSucc_castSucc] at entry
  · simpa using diagonal i.castSucc

/-- The new column of the first factor has length one and is orthogonal to those before it. -/
theorem IsDecomposition.orthonormal_last (decomposed : IsDecomposition tolerance
    (ofColumns column) ⟨q.appendColumn u, border r above corner⟩) :
    q.toMatrixᵀ *ᵥ u.get = 0 ∧ u.get ⬝ᵥ u.get = 1 := by
  refine ⟨funext fun i => ?_, ?_⟩
  · have entry := congrFun (congrFun decomposed.orthonormal i.castSucc) (Fin.last k)
    simpa [Matrix.mul_apply, Matrix.mulVec, dotProduct, Matrix.one_apply,
      (Fin.castSucc_lt_last i).ne] using entry
  · have entry := congrFun (congrFun decomposed.orthonormal (Fin.last k)) (Fin.last k)
    simpa [Matrix.mul_apply, dotProduct] using entry

/-- The last column has a part along the columns before it and a part along the new one. -/
theorem IsDecomposition.parts (decomposed : IsDecomposition tolerance (ofColumns column)
    ⟨q.appendColumn u, border r above corner⟩) :
    q.toMatrix *ᵥ above.get + corner • u.get = (column (Fin.last k)).get := by
  ext i
  have entry := congrFun (congrFun decomposed.product i) (Fin.last k)
  simpa [Matrix.mul_apply, Matrix.mulVec, dotProduct, Fin.sum_univ_castSucc, ofColumns,
    mul_comm] using entry

/-- A decomposition with one more column is what the step gives. -/
theorem IsDecomposition.extend_eq_ok (nonneg : 0 ≤ tolerance)
    (decomposed : IsDecomposition tolerance (ofColumns column)
      ⟨q.appendColumn u, border r above corner⟩) :
    Factors.extend tolerance ⟨q, r⟩ (column (Fin.last k)) =
      .ok ⟨q.appendColumn u, border r above corner⟩ := by
  obtain ⟨orthogonal, unit⟩ := decomposed.orthonormal_last
  have long : tolerance < corner := by simpa using decomposed.diagonal (Fin.last k)
  have positive : 0 < corner := nonneg.trans_lt long
  have along : (projections q (column (Fin.last k))).get = above.get := by
    rw [get_projections, ← decomposed.parts, Matrix.mulVec_add, Matrix.mulVec_mulVec,
      decomposed.front.orthonormal, Matrix.one_mulVec, Matrix.mulVec_smul, orthogonal, smul_zero,
      add_zero]
  have left : (leftover q (column (Fin.last k))).get = corner • u.get := by
    rw [leftover, get_subtractProjections, along, ← decomposed.parts, add_sub_cancel_left]
  have length : norm (leftover q (column (Fin.last k))) = corner := by
    rw [norm_eq, left, smul_dotProduct, dotProduct_smul, unit, smul_eq_mul, smul_eq_mul, mul_one,
      Real.sqrt_mul_self positive.le]
  have same : (leftover q (column (Fin.last k))).map (· / corner) = u := by
    refine ext_get (congrFun ?_)
    rw [get_map_div, left, inv_smul_smul₀ positive.ne']
  rw [extend_eq, length, if_pos long, same, ext_get (congrFun along)]

end Border

/-- A decomposition is the one that is computed, so columns have at most one. -/
theorem IsDecomposition.orthogonalize_eq_ok {tolerance : ℝ} (nonneg : 0 ≤ tolerance)
    {column : Fin k → Vector ℝ m} {factors : Factors ℝ m k}
    (decomposed : IsDecomposition tolerance (ofColumns column) factors) :
    orthogonalize tolerance column = .ok factors := by
  induction k with
  | zero =>
      have empty : (⟨.ofFn fun _ => Fin.elim0, .ofFn fun _ => Fin.elim0⟩ : Factors ℝ m 0) =
          factors :=
        congrArg₂ Factors.mk (DenseMatrix.ext_entry fun _ j => j.elim0)
          (DenseMatrix.ext_entry fun i _ => i.elim0)
      exact congrArg Except.ok empty
  | succ k ih =>
      obtain ⟨before, u, above, corner, rfl⟩ :=
        Factors.IsUpper.exists_border fun _ _ below => decomposed.upper below
      rw [orthogonalize, ih decomposed.front]
      exact decomposed.extend_eq_ok nonneg

/-! ### Independent columns -/

/-- The second factor is invertible. -/
theorem IsDecomposition.isUnit_r {tolerance : ℝ} (nonneg : 0 ≤ tolerance)
    {a : Matrix (Fin m) (Fin k) ℝ} {factors : Factors ℝ m k}
    (decomposed : IsDecomposition tolerance a factors) : IsUnit factors.r.toMatrix := by
  rw [Matrix.isUnit_iff_isUnit_det, Matrix.det_of_isUpperTriangular decomposed.upper,
    isUnit_iff_ne_zero]
  exact Finset.prod_ne_zero_iff.mpr fun i _ => (nonneg.trans_lt (decomposed.diagonal i)).ne'

/-- The columns of a matrix with a decomposition are independent. -/
theorem IsDecomposition.linearIndependent {tolerance : ℝ} (nonneg : 0 ≤ tolerance)
    {a : Matrix (Fin m) (Fin k) ℝ} {factors : Factors ℝ m k}
    (decomposed : IsDecomposition tolerance a factors) : LinearIndependent ℝ a.col := by
  rw [← Matrix.mulVec_injective_iff, ← decomposed.product]
  intro x y same
  refine Matrix.mulVec_injective_of_isUnit (decomposed.isUnit_r nonneg) ?_
  have projected := congrArg (factors.q.toMatrixᵀ *ᵥ ·) same
  simpa only [Matrix.mulVec_mulVec, ← Matrix.mul_assoc, decomposed.orthonormal,
    Matrix.one_mul] using projected

/-- Of a column that is independent of the columns before it something is left. -/
theorem IsDecomposition.leftover_ne_zero {column : Fin (k + 1) → Vector ℝ m}
    (independent : LinearIndependent ℝ (ofColumns column).col) {factors : Factors ℝ m k}
    (before : IsDecomposition 0 (ofColumns fun j => column j.castSucc) factors) :
    (leftover factors.q (column (Fin.last k))).get ≠ 0 := by
  intro nothing
  rw [get_leftover, sub_eq_zero] at nothing
  -- the column is a combination of those before it
  let x : Fin k → ℝ := factors.r.toMatrix⁻¹ *ᵥ (factors.q.toMatrixᵀ *ᵥ (column (Fin.last k)).get)
  have combination : (ofColumns fun j => column j.castSucc) *ᵥ x = (column (Fin.last k)).get := by
    have inverse := Matrix.mul_nonsing_inv factors.r.toMatrix
      ((Matrix.isUnit_iff_isUnit_det _).mp (before.isUnit_r le_rfl))
    rw [← before.product, Matrix.mulVec_mulVec, Matrix.mul_assoc, inverse, Matrix.mul_one,
      ← nothing]
  have vanishes : ofColumns column *ᵥ Fin.snoc x (-1) = ofColumns column *ᵥ 0 := by
    rw [Matrix.mulVec_zero]
    ext i
    have entry := congrFun combination i
    simp only [Matrix.mulVec, dotProduct, Fin.sum_univ_castSucc, Fin.snoc_castSucc,
      Fin.snoc_last] at entry ⊢
    simp only [ofColumns, Matrix.of_apply] at entry ⊢
    rw [entry, mul_neg_one, add_neg_cancel, Pi.zero_apply]
  have zero := Matrix.mulVec_injective_iff.mpr independent vanishes
  have last := congrFun zero (Fin.last k)
  rw [Fin.snoc_last] at last
  norm_num at last

/-- Independent columns have factors, the same for all tolerances below a bound. -/
theorem exists_orthogonalize {column : Fin k → Vector ℝ m}
    (independent : LinearIndependent ℝ (ofColumns column).col) :
    ∃ bound > 0, ∃ factors, ∀ tolerance < bound, orthogonalize tolerance column = .ok factors := by
  induction k with
  | zero => exact ⟨1, one_pos, _, fun tolerance _ => rfl⟩
  | succ k ih =>
      have front : LinearIndependent ℝ (ofColumns fun j => column j.castSucc).col :=
        independent.comp Fin.castSucc (Fin.castSucc_injective k)
      obtain ⟨bound, positive, before, each⟩ := ih front
      have decomposed := isDecomposition_of_orthogonalize le_rfl (each 0 positive)
      have long := norm_pos _ (decomposed.leftover_ne_zero independent)
      have step (tolerance : ℝ) (small : tolerance < bound) : orthogonalize tolerance column =
          before.extend tolerance (column (Fin.last k)) := by
        rw [orthogonalize, each tolerance small]
        rfl
      obtain ⟨factors, extended⟩ : ∃ factors, ∀ tolerance,
          tolerance < norm (leftover before.q (column (Fin.last k))) →
            before.extend tolerance (column (Fin.last k)) = .ok factors :=
        ⟨_, fun tolerance small => (extend_eq tolerance before _).trans (if_pos small)⟩
      refine ⟨_, lt_min positive long, factors, fun tolerance small => ?_⟩
      rw [step tolerance (small.trans_le (min_le_left _ _)),
        extended tolerance (small.trans_le (min_le_right _ _))]

/-! ### Matrices -/

theorem ofColumns_column (a : DenseMatrix ℝ m n) : ofColumns a.column = a.toMatrix := by
  ext i j
  exact DenseMatrix.get_column a j i

theorem isDecomposition_of_gramSchmidt {a : DenseMatrix ℝ m n} {tolerance : ℝ}
    (nonneg : 0 ≤ tolerance) {factors : Factors ℝ m n}
    (done : gramSchmidt a tolerance = .ok factors) :
    IsDecomposition tolerance a.toMatrix factors := by
  rw [gramSchmidt] at done
  split at done
  · cases done
  · exact ofColumns_column a ▸ isDecomposition_of_orthogonalize nonneg done

/-- The answers are the decompositions. -/
theorem gramSchmidt_eq_ok_iff {a : DenseMatrix ℝ m n} (n_pos : 0 < n) (tall : n ≤ m)
    {tolerance : ℝ} (nonneg : 0 ≤ tolerance) {factors : Factors ℝ m n} :
    gramSchmidt a tolerance = .ok factors ↔ IsDecomposition tolerance a.toMatrix factors := by
  refine ⟨isDecomposition_of_gramSchmidt nonneg, fun decomposed => ?_⟩
  rw [← ofColumns_column] at decomposed
  rw [gramSchmidt_eq n_pos tall]
  exact decomposed.orthogonalize_eq_ok nonneg

/-- Dependent columns are refused. -/
theorem gramSchmidt_of_dependent {a : DenseMatrix ℝ m n} {tolerance : ℝ} (nonneg : 0 ≤ tolerance)
    (dependent : ¬ LinearIndependent ℝ a.toMatrix.col) :
    ∃ cause, gramSchmidt a tolerance = .error cause := by
  cases done : gramSchmidt a tolerance with
  | error cause => exact ⟨cause, rfl⟩
  | ok factors =>
      exact absurd ((isDecomposition_of_gramSchmidt nonneg done).linearIndependent nonneg) dependent

/-- Gram-Schmidt orthogonalisation of a matrix with at least as many rows as columns, and at
least one column. Its answers are decompositions; it refuses dependent columns; and it
decomposes independent ones whenever the tolerance is below a bound. -/
theorem gramSchmidt_decomposes (a : DenseMatrix ℝ m n) (n_pos : 0 < n) (tall : n ≤ m)
    {tolerance : ℝ} (nonneg : 0 ≤ tolerance) :
    (∀ factors, gramSchmidt a tolerance = .ok factors →
      factors.r.toMatrix.IsUpperTriangular ∧ (∀ i, tolerance < factors.r.entry i i) ∧
      factors.q.toMatrix * factors.r.toMatrix = a.toMatrix ∧
      factors.q.toMatrixᵀ * factors.q.toMatrix = 1) ∧
    (¬ LinearIndependent ℝ a.toMatrix.col →
      gramSchmidt a tolerance = .error .noUniqueSolution) ∧
    (LinearIndependent ℝ a.toMatrix.col →
      ∃ bound > 0, ∀ small, 0 ≤ small → small < bound →
        ∃ factors, gramSchmidt a small = .ok factors) := by
  have shape (small : ℝ) : gramSchmidt a small = orthogonalize small a.column :=
    gramSchmidt_eq n_pos tall a small
  refine ⟨fun factors done => ?_, fun dependent => ?_, fun independent => ?_⟩
  · have decomposed := isDecomposition_of_gramSchmidt nonneg done
    exact ⟨decomposed.upper, decomposed.diagonal, decomposed.product, decomposed.orthonormal⟩
  · obtain ⟨cause, refused⟩ := gramSchmidt_of_dependent nonneg dependent
    rw [shape] at refused ⊢
    refine (orthogonalize_ok_or tolerance a.column).resolve_left ?_
    rintro ⟨factors, done⟩
    cases done.symm.trans refused
  · rw [← ofColumns_column] at independent
    obtain ⟨bound, positive, factors, each⟩ := exists_orthogonalize independent
    exact ⟨bound, positive, fun small _ less => ⟨factors, (shape small).trans (each small less)⟩⟩

/-- Two columns of length three, once independent and once not. -/
theorem gramSchmidt_decomposes_tall :
    let independent : DenseMatrix ℝ 3 2 := ⟨#v[#v[3, 1], #v[4, 2], #v[0, 0]]⟩
    let dependent : DenseMatrix ℝ 3 2 := ⟨#v[#v[1, 2], #v[2, 4], #v[3, 6]]⟩
    (∃ tolerance > 0, ∃ factors, gramSchmidt independent tolerance = .ok factors ∧
      factors.q.toMatrix * factors.r.toMatrix = independent.toMatrix ∧
      factors.q.toMatrixᵀ * factors.q.toMatrix = 1) ∧
    gramSchmidt dependent 0 = .error .noUniqueSolution := by
  intro independent dependent
  have product (a : DenseMatrix ℝ 3 2) (x : Fin 2 → ℝ) (i : Fin 3) :
      (a.toMatrix *ᵥ x) i = a.entry i 0 * x 0 + a.entry i 1 * x 1 := by
    simp [Matrix.mulVec, dotProduct, Fin.sum_univ_two]
  constructor
  · have columns : LinearIndependent ℝ independent.toMatrix.col := by
      rw [← Matrix.mulVec_injective_iff]
      intro x y same
      have entries (i : Fin 3) :
          independent.entry i 0 * x 0 + independent.entry i 1 * x 1 =
            independent.entry i 0 * y 0 + independent.entry i 1 * y 1 := by
        rw [← product, ← product]
        exact congrFun same i
      have first : 3 * x 0 + 1 * x 1 = 3 * y 0 + 1 * y 1 := entries 0
      have second : 4 * x 0 + 2 * x 1 = 4 * y 0 + 2 * y 1 := entries 1
      ext i
      fin_cases i <;> (simp; linarith)
    obtain ⟨-, -, exists_bound⟩ := gramSchmidt_decomposes independent (by decide) (by decide) le_rfl
    obtain ⟨bound, positive, each⟩ := exists_bound columns
    obtain ⟨factors, done⟩ := each (bound / 2) (by linarith) (by linarith)
    obtain ⟨answers, -, -⟩ :=
      gramSchmidt_decomposes independent (by decide) (by decide) (half_pos positive).le
    obtain ⟨-, -, whole, orthonormal⟩ := answers factors done
    exact ⟨bound / 2, half_pos positive, factors, done, whole, orthonormal⟩
  · refine (gramSchmidt_decomposes dependent (by decide) (by decide) le_rfl).2.1 fun columns => ?_
    have same : dependent.toMatrix *ᵥ ![2, -1] = dependent.toMatrix *ᵥ 0 := by
      ext i
      rw [product, Matrix.mulVec_zero]
      fin_cases i <;> norm_num [dependent, DenseMatrix.entry, Vector.get]
    have zero := congrFun (Matrix.mulVec_injective_iff.mpr columns same) 1
    norm_num at zero

end Calculator.Linear
