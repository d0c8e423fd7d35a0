import Calculator.Proofs.Linear.Reduction
import Calculator.Proofs.Number.OrderedField
import Mathlib.Algebra.BigOperators.Field
import Mathlib.Algebra.Order.Field.Rat
import Mathlib.LinearAlgebra.Matrix.ToLinearEquiv

/-!
Gauss-Jordan elimination in an ordered field.

Two facts carry the elimination through its columns. The columns done so far are unit
vectors (`UnitColumns`), so the steps that only touch the later columns act on whole rows;
and the equations of the augmented matrix keep their solutions (`Holds`). At the end the
left-hand side is the identity, and the last column is the only solution.

A pivot is the largest entry at or below the diagonal. If it is zero, the column is a
combination of the columns before it, so an invertible matrix never meets one, and a small
enough tolerance lets all its pivots pass.
-/

namespace Calculator.Linear

open scoped Calculator.Exact Matrix

variable {K : Type} [Field K] [LinearOrder K] {n : Nat}

/-! ### The pivot row -/

/-- Going through rows for the largest magnitude keeps the best one so far. -/
theorem largest_of_foldl (magnitude : Fin n → K) (column : Fin n) (rows : List (Fin n))
    {best : Fin n} (from_column : column ≤ best) :
    let winner := rows.foldl (fun best row =>
      if column < row && Arithmetic.below (magnitude best) (magnitude row) then row else best) best
    column ≤ winner ∧ magnitude best ≤ magnitude winner ∧
      ∀ r ∈ rows, column < r → magnitude r ≤ magnitude winner := by
  induction rows generalizing best with
  | nil => exact ⟨from_column, le_refl _, fun r mem => absurd mem (List.not_mem_nil)⟩
  | cons row rows ih =>
      rw [List.foldl_cons]
      split
      · rename_i better
        simp only [Bool.and_eq_true, decide_eq_true_eq, Exact.below_iff] at better
        obtain ⟨above, larger, others⟩ := ih (le_of_lt better.1)
        refine ⟨above, (le_of_lt better.2).trans larger, fun r mem below => ?_⟩
        rcases List.mem_cons.mp mem with rfl | inRows
        · exact larger
        · exact others r inRows below
      · rename_i notBetter
        obtain ⟨above, larger, others⟩ := ih from_column
        refine ⟨above, larger, fun r mem below => ?_⟩
        rcases List.mem_cons.mp mem with rfl | inRows
        · simp only [Bool.and_eq_true, decide_eq_true_eq, Exact.below_iff, not_and, not_lt]
            at notBetter
          exact (notBetter below).trans larger
        · exact others r inRows below

/-- The pivot row is at or below the diagonal, and no entry there is larger. -/
theorem pivotRow_spec (a : DenseMatrix K n (n + 1)) (i : Fin n) :
    i ≤ pivotRow a i ∧ ∀ r, i ≤ r → |a.entry r i.castSucc| ≤ |pivot a i| := by
  have largest := largest_of_foldl (fun r => |a.entry r i.castSucc|) i (List.finRange n)
    (le_refl i)
  rw [← Fin.foldl_eq_finRange_foldl] at largest
  obtain ⟨above, larger, others⟩ := largest
  refine ⟨above, fun r below => ?_⟩
  rcases eq_or_lt_of_le below with rfl | strictly
  · exact larger
  · exact others r (List.mem_finRange r) strictly

/-! ### What every step keeps -/

/-- The first `count` columns are unit vectors. -/
def UnitColumns (count : Nat) (m : DenseMatrix K n (n + 1)) : Prop :=
  ∀ (r c : Fin n), c.val < count → m.entry r c.castSucc = if r = c then 1 else 0

/-- Every row of the matrix is orthogonal to `v`. For an augmented matrix and the vector
`(x, -1)` this says that `x` solves the system. -/
def Holds (m : DenseMatrix K n (n + 1)) (v : Fin (n + 1) → K) : Prop :=
  m.toMatrix *ᵥ v = 0

omit [LinearOrder K] in
theorem holds_iff {m : DenseMatrix K n (n + 1)} {v : Fin (n + 1) → K} :
    Holds m v ↔ ∀ r, ∑ c, m.entry r c * v c = 0 :=
  funext_iff

omit [LinearOrder K] in
/-- The equations of an augmented matrix at a vector whose last entry is split off. -/
theorem holds_snoc_iff {m : DenseMatrix K n (n + 1)} {y : Fin n → K} {t : K} :
    Holds m (Fin.snoc y t) ↔
      ∀ r, ∑ c : Fin n, m.entry r c.castSucc * y c + m.entry r (Fin.last n) * t = 0 := by
  simp only [holds_iff, Fin.sum_univ_castSucc, Fin.snoc_castSucc, Fin.snoc_last]

omit [LinearOrder K] in
/-- The equations of `[a | b]`. -/
theorem holds_appendColumn_iff {a : DenseMatrix K n n} {b : Vector K n} {y : Fin n → K}
    {t : K} : Holds (a.appendColumn b) (Fin.snoc y t) ↔ a.toMatrix *ᵥ y + t • b.get = 0 := by
  rw [holds_snoc_iff, funext_iff]
  simp [Matrix.mulVec, dotProduct, mul_comm]

omit [LinearOrder K] in
/-- Left of the columns still to be reduced, a row at or below the diagonal is zero. -/
theorem UnitColumns.entry_eq_zero {m : DenseMatrix K n (n + 1)} {i : Fin n}
    (units : UnitColumns i.val m) {r : Fin n} (below : i ≤ r) {c : Fin (n + 1)}
    (left : c < i.castSucc) : m.entry r c = 0 := by
  have bound : c.val < n := lt_trans (Fin.lt_def.mp left) i.isLt
  have before : (⟨c.val, bound⟩ : Fin n) < r := lt_of_lt_of_le (Fin.lt_def.mpr left) below
  exact (units r ⟨c.val, bound⟩ left).trans (if_neg before.ne')

/-- In a matrix whose columns before `i` are unit vectors, reducing column `i` acts on
whole rows. -/
theorem entry_reducedAt {m : DenseMatrix K n (n + 1)} {i : Fin n}
    (units : UnitColumns i.val m) (r : Fin n) (c : Fin (n + 1)) :
    (reducedAt m i).entry r c =
      if r = i then m.entry (pivotRow m i) c / pivot m i
      else m.entry (Equiv.swap i (pivotRow m i) r) c -
        m.entry (Equiv.swap i (pivotRow m i) r) i.castSucc *
          (m.entry (pivotRow m i) c / pivot m i) := by
  have zero := fun left => units.entry_eq_zero (pivotRow_spec m i).1 (c := c) left
  have normalized : (normalizeRow (swapRows m i (pivotRow m i)) i).entry i c =
      m.entry (pivotRow m i) c / pivot m i := by
    by_cases left : c < i.castSucc
    · simp [normalizeRow, not_le.mpr left, zero left]
    · simp [normalizeRow, not_lt.mp left, pivot]
  have others : r ≠ i → ∀ c, (normalizeRow (swapRows m i (pivotRow m i)) i).entry r c =
      m.entry (Equiv.swap i (pivotRow m i) r) c := by
    intro other c
    simp [normalizeRow, other, Equiv.swap_apply_def]
  rw [reducedAt, clearColumn, DenseMatrix.entry_ofFn]
  by_cases diagonal : r = i
  · subst diagonal
    simp [normalized]
  · rw [others diagonal, others diagonal, normalized, if_neg diagonal]
    by_cases left : c < i.castSucc
    · simp [left, zero left]
    · rw [if_neg (by simp [diagonal, left])]
      split
      · rename_i vanishes
        simp [Exact.beq_iff.mp vanishes]
      · rfl

/-- Reducing a column makes it a unit vector and leaves those before it alone. -/
theorem UnitColumns.reducedAt {m : DenseMatrix K n (n + 1)} {i : Fin n}
    (units : UnitColumns i.val m) (nonzero : pivot m i ≠ 0) :
    UnitColumns (i.val + 1) (reducedAt m i) := by
  intro r c reached
  rw [entry_reducedAt units]
  rcases Nat.lt_succ_iff_lt_or_eq.mp reached with earlier | current
  · have before : c < i := earlier
    rw [units.entry_eq_zero (pivotRow_spec m i).1 (Fin.castSucc_lt_castSucc_iff.mpr before),
      units _ c earlier]
    by_cases diagonal : r = i
    · simp [diagonal, before.ne']
    · have fixed : Equiv.swap i (pivotRow m i) r = c ↔ r = c := by
        rw [← Equiv.apply_eq_iff_eq (Equiv.swap i (pivotRow m i)), Equiv.swap_apply_self,
          Equiv.swap_apply_of_ne_of_ne before.ne (before.trans_le (pivotRow_spec m i).1).ne]
      simp [diagonal, fixed]
  · obtain rfl : c = i := Fin.ext current
    by_cases diagonal : r = c
    · rw [if_pos diagonal, if_pos diagonal, ← pivot, div_self nonzero]
    · rw [if_neg diagonal, ← pivot, div_self nonzero, if_neg diagonal, mul_one, sub_self]

/-- Reducing a column keeps the solutions. -/
theorem holds_reducedAt_iff {m : DenseMatrix K n (n + 1)} {i : Fin n}
    (units : UnitColumns i.val m) (nonzero : pivot m i ≠ 0) {v : Fin (n + 1) → K} :
    Holds (reducedAt m i) v ↔ Holds m v := by
  let value (r : Fin n) : K := ∑ c, m.entry r c * v c
  have reduced (r : Fin n) : ∑ c, (reducedAt m i).entry r c * v c =
      if r = i then value (pivotRow m i) / pivot m i
      else value (Equiv.swap i (pivotRow m i) r) -
        m.entry (Equiv.swap i (pivotRow m i) r) i.castSucc *
          (value (pivotRow m i) / pivot m i) := by
    simp only [entry_reducedAt units]
    split
    · simp only [value, Finset.sum_div]
      exact Finset.sum_congr rfl fun c _ => by ring
    · simp only [value, Finset.sum_div, Finset.mul_sum, ← Finset.sum_sub_distrib]
      exact Finset.sum_congr rfl fun c _ => by ring
  rw [holds_iff, holds_iff]
  simp only [reduced]
  constructor
  · intro holds r
    have atPivot : value (pivotRow m i) = 0 := by
      simpa [nonzero] using holds i
    by_cases swapped : Equiv.swap i (pivotRow m i) r = i
    · have isPivot : r = pivotRow m i := by
        rw [← Equiv.swap_apply_self i (pivotRow m i) r, swapped, Equiv.swap_apply_left]
      exact isPivot ▸ atPivot
    · simpa [swapped, atPivot] using holds (Equiv.swap i (pivotRow m i) r)
  · intro holds r
    have all (r : Fin n) : value r = 0 := holds r
    simp [all]

variable [IsStrictOrderedRing K]

/-- After `count` columns these are unit vectors, and the solutions are those of the
matrix at the start. -/
theorem unitColumns_and_holds {tolerance : K} (positive : 0 < tolerance)
    {a : DenseMatrix K n (n + 1)} :
    ∀ {count : Nat} {bound : count ≤ n} {m : DenseMatrix K n (n + 1)},
    reduceColumns tolerance a count bound = .ok m →
    UnitColumns count m ∧ ∀ v, Holds m v ↔ Holds a v
  | 0, _, _, done => by
      cases done
      exact ⟨fun r c below => absurd below (Nat.not_lt_zero _), fun v => Iff.rfl⟩
  | count + 1, bound, _, done => by
      obtain ⟨m, before, passes, rfl⟩ := reduceColumns_succ_eq_ok done
      obtain ⟨units, holds⟩ := unitColumns_and_holds positive before
      have nonzero : pivot m ⟨count, bound⟩ ≠ 0 :=
        abs_pos.mp (positive.trans_le (Exact.atMost_iff.mp passes))
      exact ⟨UnitColumns.reducedAt units nonzero,
        fun v => (holds_reducedAt_iff units nonzero).trans (holds v)⟩

/-! ### Pivots of an invertible matrix -/

/-- A column whose pivot is zero depends on the columns before it. -/
theorem exists_holds_of_pivot_eq_zero {m : DenseMatrix K n (n + 1)} {i : Fin n}
    (units : UnitColumns i.val m) (zero : pivot m i = 0) :
    ∃ y : Fin n → K, y ≠ 0 ∧ Holds m (Fin.snoc y 0) := by
  let y (c : Fin n) : K := (if c < i then m.entry c i.castSucc else 0) - if c = i then 1 else 0
  refine ⟨y, fun vanishes => ?_, holds_snoc_iff.mpr fun r => ?_⟩
  · have atColumn : y i = -1 := by simp [y]
    rw [vanishes] at atColumn
    exact neg_ne_zero.mpr one_ne_zero atColumn.symm
  · have combination : ∑ c, m.entry r c.castSucc * (if c < i then m.entry c i.castSucc else 0) =
        if r < i then m.entry r i.castSucc else 0 := by
      rw [Finset.sum_eq_single r]
      · by_cases above : r < i
        · simp [above, units r r above]
        · simp [above]
      · intro c _ other
        by_cases above : c < i
        · simp [units r c above, other.symm]
        · simp [above]
      · exact fun absent => absurd (Finset.mem_univ r) absent
    have below (atOrBelow : ¬ r < i) : m.entry r i.castSucc = 0 := by
      have bounded := (pivotRow_spec m i).2 r (not_lt.mp atOrBelow)
      rwa [zero, abs_zero, abs_nonpos_iff] at bounded
    simp only [y, mul_sub, Finset.sum_sub_distrib, combination]
    simp only [mul_ite, mul_one, mul_zero, Finset.sum_ite_eq', Finset.mem_univ, if_true,
      add_zero]
    split
    · exact sub_self _
    · rename_i atOrBelow
      rw [below atOrBelow, sub_zero]

/-- For an invertible matrix there is a tolerance that lets the pivots of the first `count`
columns pass, whatever the right-hand side. -/
theorem exists_tolerance {a : DenseMatrix K n n} (invertible : a.toMatrix.det ≠ 0) :
    ∀ (count : Nat) (bound : count ≤ n), ∃ limit > 0, ∀ tolerance, 0 < tolerance →
      tolerance ≤ limit → ∀ b, ∃ m, reduceColumns tolerance (a.appendColumn b) count bound = .ok m
  | 0, _ => ⟨1, one_pos, fun _ _ _ _ => ⟨_, rfl⟩⟩
  | count + 1, bound => by
      obtain ⟨limit, limit_pos, passes⟩ :=
        exists_tolerance invertible count (Nat.le_of_succ_le bound)
      let zeros : Vector K n := .ofFn fun _ => 0
      obtain ⟨m, done⟩ := passes limit limit_pos (le_refl _) zeros
      obtain ⟨units, holds⟩ := unitColumns_and_holds limit_pos done
      have nonzero : pivot m ⟨count, bound⟩ ≠ 0 := by
        intro zero
        obtain ⟨y, y_ne, y_holds⟩ := exists_holds_of_pivot_eq_zero units zero
        have kernel := holds_appendColumn_iff.mp ((holds _).mp y_holds)
        rw [zero_smul, add_zero] at kernel
        exact invertible (Matrix.exists_mulVec_eq_zero_iff.mp ⟨y, y_ne, kernel⟩)
      refine ⟨min limit |pivot m ⟨count, bound⟩|, lt_min limit_pos (abs_pos.mpr nonzero), ?_⟩
      intro tolerance positive small b
      obtain ⟨m', done'⟩ := passes tolerance positive (small.trans (min_le_left _ _)) b
      have same := (SameLeft.appendColumn a b zeros).of_reduceColumns done' done
      have test :
          Arithmetic.atMost tolerance (Arithmetic.abs (pivot m' ⟨count, bound⟩)) = true := by
        rw [same.pivot_eq]
        exact Exact.atMost_iff.mpr (small.trans (min_le_right _ _))
      exact ⟨_, by rw [reduceColumns, done', Except.bind, reduceColumn_eq, if_pos test]⟩

/-! ### Elimination -/

/-- If an elimination returns `x`, the multiples of `x` are the solutions of the system for
the multiples of its right-hand side. -/
theorem eliminate_solutions {a : DenseMatrix K n n} {b x : Vector K n} {tolerance : K}
    (positive : 0 < tolerance) (done : eliminate a b tolerance = .ok x) (y : Fin n → K) (t : K) :
    a.toMatrix *ᵥ y + t • b.get = 0 ↔ y + t • x.get = 0 := by
  obtain ⟨m, run, rfl⟩ := eliminate_eq_ok done
  obtain ⟨units, holds⟩ := unitColumns_and_holds positive run
  rw [← holds_appendColumn_iff, ← holds, holds_snoc_iff, funext_iff]
  refine forall_congr' fun r => ?_
  simp [units r _ (Fin.isLt _), mul_comm]

/-- A matrix for which elimination returns a vector is invertible. -/
theorem det_ne_zero_of_eliminate {a : DenseMatrix K n n} {b x : Vector K n} {tolerance : K}
    (positive : 0 < tolerance) (done : eliminate a b tolerance = .ok x) :
    a.toMatrix.det ≠ 0 := by
  intro singular
  obtain ⟨y, y_ne, kernel⟩ := Matrix.exists_mulVec_eq_zero_iff.mpr singular
  have solves := (eliminate_solutions positive done y 0).mp (by simpa using kernel)
  exact y_ne (by simpa using solves)

/-- What elimination returns is the only solution. -/
theorem eliminate_sound {a : DenseMatrix K n n} {b x : Vector K n} {tolerance : K}
    (positive : 0 < tolerance) (done : eliminate a b tolerance = .ok x) (y : Fin n → K) :
    a.toMatrix *ᵥ y = b.get ↔ y = x.get := by
  have solves := eliminate_solutions positive done y (-1)
  simpa [neg_smul, ← sub_eq_add_neg, sub_eq_zero] using solves

/-- Elimination is sound and complete: what it returns is the only solution of a system
with an invertible matrix, a singular matrix has no unique solution, and an invertible one
is solved for every right-hand side once the tolerance is small enough. Systems that are
empty or not square are refused. -/
theorem gaussJordan_sound_complete :
    (∀ {n : Nat}, 0 < n → ∀ (a : DenseMatrix K n n) (b : Vector K n) (tolerance : K),
      0 < tolerance →
        (∀ x, gaussJordan a b tolerance = .ok x →
          IsUnit a.toMatrix ∧ a.toMatrix *ᵥ x.get = b.get ∧
            ∀ y, a.toMatrix *ᵥ y = b.get → y = x.get) ∧
        (¬ IsUnit a.toMatrix → gaussJordan a b tolerance = .error .noUniqueSolution)) ∧
    (∀ {n : Nat}, 0 < n → ∀ a : DenseMatrix K n n, IsUnit a.toMatrix →
      ∃ limit > 0, ∀ tolerance, 0 < tolerance → tolerance ≤ limit →
        ∀ b : Vector K n, ∃ x, gaussJordan a b tolerance = .ok x) ∧
    ∀ {m n k : Nat}, ¬ (0 < m ∧ m = n ∧ m = k) →
      ∀ (a : DenseMatrix K m n) (b : Vector K k) (tolerance : K),
        gaussJordan a b tolerance = .error .shapeMismatch := by
  refine ⟨?_, ?_, ?_⟩
  · intro n n_pos a b tolerance positive
    rw [gaussJordan_of_pos n_pos]
    have invertible : ∀ x, eliminate a b tolerance = .ok x → IsUnit a.toMatrix := by
      intro x done
      exact (Matrix.isUnit_iff_isUnit_det _).mpr (det_ne_zero_of_eliminate positive done).isUnit
    constructor
    · intro x done
      have sound := eliminate_sound positive done
      exact ⟨invertible x done, (sound _).mpr rfl, fun y => (sound y).mp⟩
    · intro singular
      rcases eliminate_ok_or a b tolerance with ⟨x, done⟩ | failed
      · exact absurd (invertible x done) singular
      · exact failed
  · intro n n_pos a invertible
    have det_ne := ((Matrix.isUnit_iff_isUnit_det _).mp invertible).ne_zero
    obtain ⟨limit, limit_pos, passes⟩ := exists_tolerance det_ne _ (Nat.le_refl _)
    refine ⟨limit, limit_pos, ?_⟩
    intro tolerance positive small b
    obtain ⟨m, done⟩ := passes tolerance positive small b
    rw [gaussJordan_of_pos n_pos, eliminate, done]
    exact ⟨_, rfl⟩
  · intro m n k other a b tolerance
    exact gaussJordan_of_not_square other a b tolerance

/-- A matrix that needs a row swap, a singular one and one that is not square. -/
theorem gaussJordan_sound_complete_swap :
    let swapped : DenseMatrix ℚ 2 2 := ⟨#v[#v[0, 2], #v[1, 1]]⟩
    let singular : DenseMatrix ℚ 2 2 := ⟨#v[#v[1, 1], #v[2, 2]]⟩
    let wide : DenseMatrix ℚ 1 2 := ⟨#v[#v[1, 1]]⟩
    (gaussJordan swapped #v[2, 3] (1 / 10 ^ 9) = .ok #v[2, 1] ∧ IsUnit swapped.toMatrix ∧
        swapped.toMatrix *ᵥ (#v[2, 1] : Vector ℚ 2).get = (#v[2, 3] : Vector ℚ 2).get) ∧
      (∃ limit > 0, ∀ tolerance, 0 < tolerance → tolerance ≤ limit →
        ∀ b : Vector ℚ 2, ∃ x, gaussJordan swapped b tolerance = .ok x) ∧
      gaussJordan singular #v[2, 4] (1 / 10 ^ 9) = .error .noUniqueSolution ∧
      gaussJordan wide #v[3] (1 / 10 ^ 9) = .error .shapeMismatch := by
  intro swapped singular wide
  obtain ⟨sound, complete, refused⟩ := gaussJordan_sound_complete (K := ℚ)
  have solved : gaussJordan swapped #v[2, 3] (1 / 10 ^ 9) = .ok #v[2, 1] := by decide +kernel
  have dependent : ¬ IsUnit singular.toMatrix := by
    rw [Matrix.isUnit_iff_isUnit_det, isUnit_iff_ne_zero, not_not, Matrix.det_fin_two]
    decide +kernel
  obtain ⟨invertible, solution, -⟩ :=
    (sound (by decide) swapped #v[2, 3] (1 / 10 ^ 9) (by decide +kernel)).1 _ solved
  exact ⟨⟨solved, invertible, solution⟩, complete (by decide) swapped invertible,
    (sound (by decide) singular #v[2, 4] (1 / 10 ^ 9) (by decide +kernel)).2 dependent,
    refused (by decide) wide #v[3] (1 / 10 ^ 9)⟩

end Calculator.Linear
