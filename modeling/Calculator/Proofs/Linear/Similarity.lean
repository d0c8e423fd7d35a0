import Calculator.Proofs.Linear.Orthogonalization
import Mathlib.Algebra.Polynomial.Roots
import Mathlib.LinearAlgebra.Matrix.Charpoly.Basic
import Mathlib.LinearAlgebra.UnitaryGroup

/-!
The eigenvalue iteration in the real numbers.

A round replaces a matrix `a = q r` by `r q`, which is `qᵀ a q`. So every iterate is similar to
the matrix by an orthogonal change of basis (`similar_iterateFactors`), whether the rounds were
used up or a decomposition failed on the way, and has the same characteristic polynomial. Main
statement: `eigenvalues_similar`.
-/

namespace Calculator.Linear

open Polynomial
open scoped Calculator.Exact Matrix

variable {n : Nat}

/-! ### Orthogonal similarity -/

/-- The matrix `b` is `a` after an orthogonal change of basis. -/
def Similar (a b : Matrix (Fin n) (Fin n) ℝ) : Prop :=
  ∃ p ∈ Matrix.orthogonalGroup (Fin n) ℝ, b = pᵀ * a * p

variable {a b c : Matrix (Fin n) (Fin n) ℝ}

theorem Similar.refl (a : Matrix (Fin n) (Fin n) ℝ) : Similar a a :=
  ⟨1, one_mem _, by rw [Matrix.transpose_one, Matrix.one_mul, Matrix.mul_one]⟩

theorem Similar.trans (first : Similar a b) (second : Similar b c) : Similar a c := by
  obtain ⟨p, p_mem, rfl⟩ := first
  obtain ⟨q, q_mem, rfl⟩ := second
  refine ⟨p * q, mul_mem p_mem q_mem, ?_⟩
  rw [Matrix.transpose_mul]
  simp only [Matrix.mul_assoc]

/-- Similar matrices have one characteristic polynomial. -/
theorem Similar.charpoly_eq (similar : Similar a b) : b.charpoly = a.charpoly := by
  obtain ⟨p, orthogonal, rfl⟩ := similar
  let basis : (Matrix (Fin n) (Fin n) ℝ)ˣ :=
    ⟨p, pᵀ, (Matrix.mem_orthogonalGroup_iff _ _).mp orthogonal,
      (Matrix.mem_orthogonalGroup_iff' _ _).mp orthogonal⟩
  have inverse : p⁻¹ = pᵀ :=
    Matrix.inv_eq_left_inv ((Matrix.mem_orthogonalGroup_iff' _ _).mp orthogonal)
  rw [← inverse]
  exact Matrix.charpoly_units_conj' basis a

theorem Similar.trace_eq (similar : Similar a b) : b.trace = a.trace := by
  obtain ⟨p, orthogonal, rfl⟩ := similar
  rw [Matrix.trace_mul_comm, ← Matrix.mul_assoc, (Matrix.mem_orthogonalGroup_iff _ _).mp orthogonal,
    Matrix.one_mul]

/-- The eigenvalues of a triangular matrix are the entries of its diagonal. -/
theorem roots_charpoly_of_triangular
    (triangular : a.IsUpperTriangular ∨ a.IsLowerTriangular) :
    a.charpoly.roots = Finset.univ.val.map fun i => a i i := by
  have product : a.charpoly = ∏ i, (X - C (a i i)) := by
    rcases triangular with upper | lower
    · exact Matrix.charpoly_of_isUpperTriangular a upper
    · have upper : aᵀ.IsUpperTriangular := lower.transpose
      rw [← Matrix.charpoly_transpose]
      exact Matrix.charpoly_of_isUpperTriangular aᵀ upper
  have values : Finset.univ.val.map (fun i => X - C (a i i)) =
      (Finset.univ.val.map fun i => a i i).map fun x => X - C x :=
    (Multiset.map_map (fun x => X - C x) (fun i => a i i) _).symm
  rw [product, Finset.prod, values, roots_multiset_prod_X_sub_C]

/-! ### Two rows -/

theorem toMatrix_two (w x y z : ℝ) :
    (⟨#v[#v[w, x], #v[y, z]]⟩ : DenseMatrix ℝ 2 2).toMatrix = !![w, x; y, z] := by
  ext i j
  fin_cases i <;> fin_cases j <;> rfl

/-- A rotation and an upper triangular matrix with a large diagonal decompose their product. -/
theorem isDecomposition_rotation {c s x y z tolerance : ℝ} (unit : c * c + s * s = 1)
    (first : tolerance < x) (second : tolerance < z) :
    IsDecomposition tolerance !![c * x, c * y - s * z; s * x, s * y + c * z]
      ⟨⟨#v[#v[c, -s], #v[s, c]]⟩, ⟨#v[#v[x, y], #v[0, z]]⟩⟩ := by
  refine ⟨?_, ?_, fun i j less => ?_, fun i => ?_⟩
  · have transposed : !![c, -s; s, c]ᵀ = !![c, s; -s, c] := Matrix.eta_fin_two _
    have crossed : c * -s + s * c = 0 := by ring
    have crossed' : -s * c + c * s = 0 := by ring
    have unit' : -s * -s + c * c = 1 := by rw [neg_mul_neg, add_comm, unit]
    rw [toMatrix_two, transposed, Matrix.mul_fin_two, unit, crossed, crossed', unit',
      Matrix.one_fin_two]
  · rw [toMatrix_two, toMatrix_two, Matrix.mul_fin_two]
    ring_nf
  · replace less : j < i := less
    obtain ⟨rfl, rfl⟩ : i = 1 ∧ j = 0 := by omega
    rfl
  · fin_cases i
    · exact first
    · exact second

/-! ### The iteration -/

theorem toMatrix_mul {m k : Nat} (a : DenseMatrix ℝ m n) (b : DenseMatrix ℝ n k) :
    (a.mul b).toMatrix = a.toMatrix * b.toMatrix := by
  ext i j
  rw [Matrix.mul_apply, DenseMatrix.toMatrix_apply, DenseMatrix.mul, DenseMatrix.entry_ofFn,
    sumTerms_eq_sum]
  rfl

/-- The product of the factors in reverse order is similar to the matrix. -/
theorem similar_of_gramSchmidt {a : DenseMatrix ℝ n n} {tolerance : ℝ} (nonneg : 0 ≤ tolerance)
    {factors : Factors ℝ n n} (done : gramSchmidt a tolerance = .ok factors) :
    Similar a.toMatrix (factors.r.mul factors.q).toMatrix := by
  have decomposed := isDecomposition_of_gramSchmidt nonneg done
  refine ⟨factors.q.toMatrix, (Matrix.mem_orthogonalGroup_iff' _ _).mpr decomposed.orthonormal, ?_⟩
  rw [toMatrix_mul, ← decomposed.product, ← Matrix.mul_assoc factors.q.toMatrixᵀ,
    decomposed.orthonormal, Matrix.one_mul]

/-- Every iterate is similar to the matrix. -/
theorem similar_iterateFactors {tolerance : ℝ} (nonneg : 0 ≤ tolerance) (rounds : Nat)
    (a : DenseMatrix ℝ n n) : Similar a.toMatrix (iterateFactors tolerance rounds a).toMatrix := by
  induction rounds generalizing a with
  | zero => exact .refl _
  | succ rounds ih =>
      rw [iterateFactors]
      cases done : gramSchmidt a tolerance with
      | error cause => exact .refl _
      | ok factors => exact (similar_of_gramSchmidt nonneg done).trans (ih _)

/-- The eigenvalue iteration never leaves the similarity class of a matrix: the matrix whose
diagonal it gives is the first one after an orthogonal change of basis. So it has the same
characteristic polynomial, the values add up to the trace, and if it is triangular they are the
eigenvalues, each with its multiplicity. -/
theorem eigenvalues_similar (n_pos : 0 < n) (a : DenseMatrix ℝ n n) (rounds : Nat)
    {tolerance : ℝ} (nonneg : 0 ≤ tolerance) :
    let last := iterateFactors tolerance rounds a
    eigenvalues a rounds tolerance = .ok last.diagonal ∧
      (∃ p ∈ Matrix.orthogonalGroup (Fin n) ℝ, last.toMatrix = pᵀ * a.toMatrix * p) ∧
      last.toMatrix.charpoly = a.toMatrix.charpoly ∧
      last.diagonal.toList.sum = a.toMatrix.trace ∧
      (last.toMatrix.IsUpperTriangular ∨ last.toMatrix.IsLowerTriangular →
        a.toMatrix.charpoly.roots = last.diagonal.toList) := by
  intro last
  have similar : Similar a.toMatrix last.toMatrix := similar_iterateFactors nonneg rounds a
  have diagonal : last.diagonal.toList = List.ofFn fun i => last.toMatrix i i :=
    Vector.toList_ofFn
  refine ⟨?_, similar, similar.charpoly_eq, ?_, fun triangular => ?_⟩
  · rw [eigenvalues, dif_pos ⟨n_pos, rfl⟩]
    exact congrArg (fun a => Except.ok (iterateFactors tolerance rounds a).diagonal) a.ofFn_entry
  · rw [diagonal, List.sum_ofFn, ← similar.trace_eq]
    rfl
  · rw [← similar.charpoly_eq, roots_charpoly_of_triangular triangular, Fin.univ_val_map, diagonal]

/-- A round turns this matrix into a triangular one. The tolerance refuses the second column of
that, so the iteration ends there, and its diagonal has the eigenvalues. -/
theorem eigenvalues_similar_one_round :
    let a : DenseMatrix ℝ 2 2 := ⟨#v[#v[9, -8], #v[12, 31]]⟩
    let last : DenseMatrix ℝ 2 2 := ⟨#v[#v[25, 0], #v[20, 15]]⟩
    iterateFactors 12 5 a = last ∧ eigenvalues a 5 12 = .ok #v[25, 15] ∧
      (∃ p ∈ Matrix.orthogonalGroup (Fin 2) ℝ, last.toMatrix = pᵀ * a.toMatrix * p) ∧
      a.toMatrix.charpoly.roots = {25, 15} := by
  intro a last
  have nonneg : (0 : ℝ) ≤ 12 := by norm_num
  let factors : Factors ℝ 2 2 :=
    ⟨⟨#v[#v[3 / 5, -(4 / 5)], #v[4 / 5, 3 / 5]]⟩, ⟨#v[#v[15, 20], #v[0, 25]]⟩⟩
  have done : gramSchmidt a 12 = .ok factors := by
    have product : a.toMatrix =
        !![3 / 5 * 15, 3 / 5 * 20 - 4 / 5 * 25; 4 / 5 * 15, 4 / 5 * 20 + 3 / 5 * 25] := by
      rw [toMatrix_two]
      norm_num
    rw [gramSchmidt_eq_ok_iff two_pos le_rfl nonneg, product]
    exact isDecomposition_rotation (by norm_num) (by norm_num) (by norm_num)
  have next : factors.r.mul factors.q = last := by
    have product : (factors.r.mul factors.q).toMatrix = last.toMatrix := by
      rw [toMatrix_mul, toMatrix_two, toMatrix_two, toMatrix_two, Matrix.mul_fin_two]
      norm_num
    exact DenseMatrix.ext_entry fun i j => congrFun (congrFun product i) j
  have refused : ∀ factors, gramSchmidt last 12 ≠ .ok factors := by
    intro factors done
    have decomposed := isDecomposition_of_gramSchmidt nonneg done
    have zero : factors.r.entry 1 0 = 0 := decomposed.upper (by decide)
    have long : 12 < factors.r.entry 1 1 := decomposed.diagonal 1
    -- Column lengths and the inner product leave too little of the second column.
    have inner (i j : Fin 2) := congrFun (congrFun decomposed.transpose_mul_self i) j
    rw [toMatrix_two] at inner
    have first := inner 0 0
    have mixed := inner 0 1
    have second := inner 1 1
    norm_num [Matrix.mul_apply, Fin.sum_univ_two, zero] at first mixed second
    have large : 1025 * (factors.r.entry 0 1 * factors.r.entry 0 1) = 300 * 300 := by
      rw [← first, ← mixed]
      ring
    have small : factors.r.entry 0 1 * factors.r.entry 0 1 < 81 := by nlinarith only [second, long]
    linarith
  have stopped : iterateFactors 12 5 a = last := by
    rw [iterateFactors, done]
    dsimp only
    rw [next, iterateFactors]
    cases second : gramSchmidt last 12 with
    | ok factors => exact absurd second (refused factors)
    | error cause => rfl
  have lower : last.toMatrix.IsLowerTriangular := by
    intro i j less
    replace less : i < j := less
    obtain ⟨rfl, rfl⟩ : i = 0 ∧ j = 1 := by omega
    rfl
  obtain ⟨answer, similar, -, -, roots⟩ := eigenvalues_similar two_pos a 5 nonneg
  rw [stopped] at answer similar roots
  exact ⟨stopped, answer, similar, roots (.inr lower)⟩

end Calculator.Linear
