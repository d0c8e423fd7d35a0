import Calculator.Proofs.Linear.Course
import Calculator.Proofs.Linear.ExactDeterminant
import Calculator.Proofs.Linear.ExactElimination

/-!
What the pivots of an elimination say about the determinant.

In an ordered field the product of their magnitudes is the magnitude of the determinant
(`prod_pivots`): a step exchanges rows, which may change the sign, divides a row by the pivot,
and subtracts multiples of it.

So elimination and Cramer's rule test different things, every factor and the product.
They find the same vector, and they agree exactly if the two tests do
(`gaussJordan_eq_cramersRule_iff`).
-/

namespace Calculator.Linear

open scoped Calculator.Exact Matrix

variable {K : Type} [Field K] [LinearOrder K] {n : Nat}

/-! ### The determinant -/

/-- The square matrix in front of the last column. -/
def leftPart (m : DenseMatrix K n (n + 1)) : Matrix (Fin n) (Fin n) K :=
  .of fun r c => m.entry r c.castSucc

omit [Field K] [LinearOrder K] in
theorem leftPart_appendColumn (a : DenseMatrix K n n) (b : Vector K n) :
    leftPart (a.appendColumn b) = a.toMatrix := by
  ext r c
  simp [leftPart]

omit [LinearOrder K] in
/-- When all columns are unit vectors, the matrix is the identity. -/
theorem leftPart_of_unitColumns {m : DenseMatrix K n (n + 1)} (units : UnitColumns n m) :
    leftPart m = 1 := by
  ext r c
  rw [Matrix.one_apply]
  exact units r c c.isLt

variable [IsStrictOrderedRing K]

/-- Reducing a column divides the determinant by the pivot, up to the sign. -/
theorem det_leftPart_reducedAt {m : DenseMatrix K n (n + 1)} {i : Fin n}
    (units : UnitColumns i.val m) (nonzero : pivot m i ≠ 0) :
    |(leftPart (reducedAt m i)).det| * |pivot m i| = |(leftPart m).det| := by
  let swapped := (leftPart m).submatrix (Equiv.swap i (pivotRow m i)) id
  let normalized := swapped.updateRow i ((pivot m i)⁻¹ • swapped i)
  -- all rows but the pivot row lose a multiple of it
  have cleared : (leftPart (reducedAt m i)).det = normalized.det := by
    refine Matrix.det_eq_of_forall_row_eq_smul_add_const
      (fun r => if r = i then 0 else -swapped r i) i (if_pos rfl) fun r c => ?_
    have atPivot : normalized i c = m.entry (pivotRow m i) c.castSucc / pivot m i := by
      simp [normalized, swapped, leftPart, div_eq_inv_mul]
    rw [atPivot]
    by_cases diagonal : r = i
    · subst diagonal
      simp [leftPart, entry_reducedAt units, atPivot]
    · simp [leftPart, entry_reducedAt units, diagonal, normalized, swapped, sub_eq_add_neg]
  have scaled : normalized.det = (pivot m i)⁻¹ * swapped.det := by
    rw [Matrix.det_updateRow_smul, Matrix.updateRow_eq_self]
  have sign : |swapped.det| = |(leftPart m).det| := by
    rw [Matrix.det_permute]
    rcases Int.units_eq_one_or (Equiv.Perm.sign (Equiv.swap i (pivotRow m i))) with plus | minus
    · simp [plus]
    · simp [minus]
  rw [cleared, scaled, abs_mul, abs_inv, sign, mul_right_comm,
    inv_mul_cancel₀ (abs_ne_zero.mpr nonzero), one_mul]

/-- As long as no pivot is zero, the columns done are unit vectors, and the pivots met make
up for what the determinant lost. -/
theorem reducedTo_spec (a : DenseMatrix K n (n + 1)) :
    ∀ (count : Nat) (bound : count ≤ n), (∀ i : Fin n, i.val < count → pivots a i ≠ 0) →
      UnitColumns count (reducedTo a count bound) ∧
        |(leftPart (reducedTo a count bound)).det| *
          ∏ i : Fin count, |pivots a (i.castLE bound)| = |(leftPart a).det|
  | 0, _, _ => ⟨fun r c before => absurd before (Nat.not_lt_zero _), by simp [reducedTo]⟩
  | count + 1, bound, nonzero => by
      obtain ⟨units, product⟩ := reducedTo_spec a count (Nat.le_of_succ_le bound)
        fun i before => nonzero i (Nat.lt_succ_of_lt before)
      have current := nonzero ⟨count, bound⟩ (Nat.lt_succ_self count)
      refine ⟨UnitColumns.reducedAt units current, ?_⟩
      have step := det_leftPart_reducedAt (i := ⟨count, bound⟩) units current
      rw [Fin.prod_univ_castSucc, mul_comm (Finset.prod _ _), ← mul_assoc]
      rw [← product, ← step]
      rfl

/-- A column whose pivot is zero depends on the columns before it. -/
theorem det_leftPart_eq_zero {m : DenseMatrix K n (n + 1)} {i : Fin n}
    (units : UnitColumns i.val m) (zero : pivot m i = 0) : (leftPart m).det = 0 := by
  obtain ⟨y, y_ne, holds⟩ := exists_holds_of_pivot_eq_zero units zero
  refine Matrix.exists_mulVec_eq_zero_iff.mp ⟨y, y_ne, ?_⟩
  ext r
  simpa [Matrix.mulVec, dotProduct, leftPart] using holds_snoc_iff.mp holds r

/-- The magnitudes of the pivots multiply to the magnitude of the determinant. -/
theorem prod_pivots (a : DenseMatrix K n (n + 1)) : ∏ i, |pivots a i| = |(leftPart a).det| := by
  by_cases nonzero : ∀ i, pivots a i ≠ 0
  · obtain ⟨units, product⟩ := reducedTo_spec a n (Nat.le_refl n) fun i _ => nonzero i
    rw [leftPart_of_unitColumns units, Matrix.det_one, abs_one, one_mul] at product
    exact product
  · -- the first pivot that is zero
    obtain ⟨i, zero, first⟩ : ∃ i, pivots a i = 0 ∧ ∀ j < i, pivots a j ≠ 0 := by
      push Not at nonzero
      obtain ⟨i, zero, least⟩ := WellFounded.has_min (wellFounded_lt (α := Fin n))
        {i | pivots a i = 0} nonzero
      exact ⟨i, zero, fun j before isZero => least j isZero before⟩
    obtain ⟨units, product⟩ := reducedTo_spec a i.val (Nat.le_of_lt i.isLt)
      fun j before => first j before
    rw [← product, det_leftPart_eq_zero units zero, abs_zero, zero_mul]
    exact Finset.prod_eq_zero (Finset.mem_univ i) (by rw [zero, abs_zero])

/-! ### Elimination and Cramer's rule -/

def cramerQuotients (a : DenseMatrix K n n) (b : Vector K n) : Vector K n :=
  .ofFn fun i => a.toMatrix.cramer b.get i / a.toMatrix.det

/-- Where elimination finds a vector, it finds the quotients of Cramer's rule. -/
theorem gaussJordan_eq (n_pos : 0 < n) (a : DenseMatrix K n n) (b : Vector K n) {tolerance : K}
    (positive : 0 < tolerance) : gaussJordan a b tolerance =
      if ∀ i, tolerance ≤ |pivots (a.appendColumn b) i| then .ok (cramerQuotients a b)
      else .error .noUniqueSolution := by
  rw [gaussJordan_of_pos n_pos]
  by_cases passes : ∀ i, tolerance ≤ |pivots (a.appendColumn b) i|
  · have done : eliminate a b tolerance = .ok _ :=
      (eliminate_eq a b tolerance).trans (if_pos (by simpa using passes))
    have entries : (cramerQuotients a b).get =
        fun i => a.toMatrix.cramer b.get i / a.toMatrix.det :=
      funext (get_ofFn _)
    have solves : a.toMatrix *ᵥ (cramerQuotients a b).get = b.get := by
      rw [entries]
      exact mulVec_cramer_div (det_ne_zero_of_eliminate positive done) b.get
    have same : cramerQuotients a b = _ :=
      ext_get (congrFun ((eliminate_sound positive done _).mp solves))
    rw [done, if_pos passes, same]
  · rw [eliminate_eq, if_neg (by simpa using passes), if_neg passes]

theorem prod_pivots_appendColumn (a : DenseMatrix K n n) (b : Vector K n) :
    ∏ i, |pivots (a.appendColumn b) i| = |a.toMatrix.det| := by
  rw [prod_pivots, leftPart_appendColumn]

/-- On a singular matrix both fail: a pivot is zero, and so is the product. -/
theorem gaussJordan_cramersRule_of_det_eq_zero (n_pos : 0 < n) {a : DenseMatrix K n n}
    (zero : a.toMatrix.det = 0) (b : Vector K n) {tolerance : K} (positive : 0 < tolerance) :
    gaussJordan a b tolerance = .error .noUniqueSolution ∧
      cramersRule a b tolerance = .error .noUniqueSolution := by
  have product := prod_pivots_appendColumn a b
  rw [zero, abs_zero, Finset.prod_eq_zero_iff] at product
  obtain ⟨i, -, vanishes⟩ := product
  constructor
  · rw [gaussJordan_eq n_pos a b positive, if_neg]
    exact fun each => not_le.mpr positive (vanishes ▸ each i)
  · rw [cramersRule_of_pos n_pos, zero, abs_zero, if_neg (not_le.mpr positive)]

/-- On an invertible matrix both succeed as soon as the tolerance is small enough. -/
theorem exists_limit_of_det_ne_zero (n_pos : 0 < n) {a : DenseMatrix K n n}
    (nonzero : a.toMatrix.det ≠ 0) : ∃ limit > 0, ∀ tolerance, 0 < tolerance →
      tolerance ≤ limit → ∀ b : Vector K n,
        gaussJordan a b tolerance = .ok (cramerQuotients a b) ∧
          cramersRule a b tolerance = .ok (cramerQuotients a b) := by
  obtain ⟨limit, limit_pos, passes⟩ := exists_tolerance nonzero n (Nat.le_refl n)
  refine ⟨min limit |a.toMatrix.det|, lt_min limit_pos (abs_pos.mpr nonzero), ?_⟩
  intro tolerance positive small b
  obtain ⟨m, done⟩ := passes tolerance positive (small.trans (min_le_left _ _)) b
  rw [reduceColumns_eq] at done
  split at done
  · rename_i each
    constructor
    · rw [gaussJordan_eq n_pos a b positive, if_pos]
      simpa using each
    · rw [cramersRule_of_pos n_pos, if_pos (small.trans (min_le_right _ _))]
      rfl
  · cases done

/-- Elimination and Cramer's rule look for the same vector. Elimination returns it if every
pivot passes the test, and Cramer's rule if the product of the pivots does; so the two agree
exactly if these verdicts do. They agree on every singular matrix, and on an invertible one
once the tolerance is small enough. -/
theorem gaussJordan_eq_cramersRule_iff : ∀ {n : Nat}, 0 < n → ∀ a : DenseMatrix K n n,
    (∀ (b : Vector K n) (tolerance : K), 0 < tolerance →
      let p := pivots (a.appendColumn b)
      ∏ i, |p i| = |a.toMatrix.det| ∧
        (∃ x,
          gaussJordan a b tolerance =
            (if ∀ i, tolerance ≤ |p i| then .ok x else .error .noUniqueSolution) ∧
          cramersRule a b tolerance =
            if tolerance ≤ ∏ i, |p i| then .ok x else .error .noUniqueSolution) ∧
        (gaussJordan a b tolerance = cramersRule a b tolerance ↔
          ((∀ i, tolerance ≤ |p i|) ↔ tolerance ≤ ∏ i, |p i|))) ∧
    (¬ IsUnit a.toMatrix → ∀ (b : Vector K n) (tolerance : K), 0 < tolerance →
      gaussJordan a b tolerance = .error .noUniqueSolution ∧
        cramersRule a b tolerance = .error .noUniqueSolution) ∧
    (IsUnit a.toMatrix → ∃ limit > 0, ∀ tolerance, 0 < tolerance → tolerance ≤ limit →
      ∀ b : Vector K n, ∃ x,
        gaussJordan a b tolerance = .ok x ∧ cramersRule a b tolerance = .ok x) := by
  intro n n_pos a
  refine ⟨?_, ?_, ?_⟩
  · intro b tolerance positive p
    have product : ∏ i, |p i| = |a.toMatrix.det| := prod_pivots_appendColumn a b
    have gauss := gaussJordan_eq n_pos a b positive
    have cramer := cramersRule_of_pos n_pos a b tolerance
    rw [← product] at cramer
    refine ⟨product, ⟨_, gauss, cramer⟩, ?_⟩
    rw [gauss, cramer]
    by_cases each : ∀ i, tolerance ≤ |p i| <;> by_cases whole : tolerance ≤ ∏ i, |p i|
    · simp [p, each, whole, cramerQuotients]
    · simp [p, each, whole]
    · simp [p, each, whole]
    · simp [p, each, whole]
  · intro singular b tolerance positive
    rw [Matrix.isUnit_iff_isUnit_det, isUnit_iff_ne_zero, not_not] at singular
    exact gaussJordan_cramersRule_of_det_eq_zero n_pos singular b positive
  · intro invertible
    rw [Matrix.isUnit_iff_isUnit_det, isUnit_iff_ne_zero] at invertible
    obtain ⟨limit, limit_pos, succeed⟩ := exists_limit_of_det_ne_zero n_pos invertible
    exact ⟨limit, limit_pos, fun tolerance positive small b =>
      ⟨_, succeed tolerance positive small b⟩⟩

/-- An invertible matrix on which the two agree, and a singular one. -/
theorem gaussJordan_eq_cramersRule_swap :
    let regular : DenseMatrix ℚ 2 2 := ⟨#v[#v[0, 2], #v[4, 1]]⟩
    let singular : DenseMatrix ℚ 2 2 := ⟨#v[#v[1, 1], #v[2, 2]]⟩
    gaussJordan regular #v[2, 3] (1 / 10 ^ 9) = cramersRule regular #v[2, 3] (1 / 10 ^ 9) ∧
      (∃ limit > 0, ∀ tolerance, 0 < tolerance → tolerance ≤ limit → ∀ b : Vector ℚ 2, ∃ x,
        gaussJordan regular b tolerance = .ok x ∧ cramersRule regular b tolerance = .ok x) ∧
      gaussJordan singular #v[2, 3] (1 / 10 ^ 9) = .error .noUniqueSolution ∧
      cramersRule singular #v[2, 3] (1 / 10 ^ 9) = .error .noUniqueSolution := by
  intro regular singular
  obtain ⟨verdicts, -, small⟩ := gaussJordan_eq_cramersRule_iff (n := 2) (by decide) regular
  obtain ⟨-, both, -⟩ := gaussJordan_eq_cramersRule_iff (n := 2) (by decide) singular
  have invertible : IsUnit regular.toMatrix := by
    rw [Matrix.isUnit_iff_isUnit_det, isUnit_iff_ne_zero, Matrix.det_fin_two]
    decide +kernel
  have dependent : ¬ IsUnit singular.toMatrix := by
    rw [Matrix.isUnit_iff_isUnit_det, isUnit_iff_ne_zero, not_not, Matrix.det_fin_two]
    decide +kernel
  obtain ⟨-, -, agree⟩ := verdicts #v[2, 3] (1 / 10 ^ 9) (by decide +kernel)
  exact ⟨agree.mpr (by decide +kernel), small invertible,
    both dependent #v[2, 3] (1 / 10 ^ 9) (by decide +kernel)⟩

/-- Two small pivots pass one by one, but their product does not. -/
theorem gaussJordan_ne_cramersRule :
    let scaled : DenseMatrix ℚ 2 2 := ⟨#v[#v[1 / 2 ^ 16, 0], #v[0, 1 / 2 ^ 16]]⟩
    gaussJordan scaled #v[1, 1] (1 / 10 ^ 9) = .ok #v[65536, 65536] ∧
      cramersRule scaled #v[1, 1] (1 / 10 ^ 9) = .error .noUniqueSolution := by
  decide +kernel

end Calculator.Linear
