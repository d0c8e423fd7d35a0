import Calculator.Linear.Determinant
import Calculator.Linear.Orthogonal
import Calculator.Proofs.Linear.Reduction

/-!
How the solvers end, for every arithmetic.

On a square system that is not empty, elimination and Cramer's rule give a vector or find that
there is no unique solution, and so does the orthogonalisation of a matrix that has a column
and no more columns than rows. The determinant and the length of what is left of a column
decide (`cramersRule_eq`, `Factors.extend_eq`). Every column that is added puts zeros below the
diagonal (`isUpper_of_orthogonalize`).
-/

namespace Calculator.Linear

open Arithmetic

variable {α : Type} [Arithmetic α] {m n k : Nat}

/-! ### Systems -/

theorem gaussJordan_ok_or (positive : 0 < n) (a : DenseMatrix α n n) (b : Vector α n)
    (tolerance : α) : (∃ x, gaussJordan a b tolerance = .ok x) ∨
      gaussJordan a b tolerance = .error .noUniqueSolution := by
  rw [gaussJordan_of_pos positive]
  exact eliminate_ok_or a b tolerance

/-- A square system that is not empty is solved if its determinant passes the test. -/
theorem cramersRule_eq (positive : 0 < n) (a : DenseMatrix α n n) (b : Vector α n)
    (tolerance : α) : cramersRule a b tolerance =
      if atMost tolerance (abs (determinant a)) then
        .ok (.ofFn fun i => determinant (a.replaceColumn i b) / determinant a)
      else .error .noUniqueSolution := by
  rw [cramersRule, squareSystem?_of_pos positive]
  rfl

/-- Any other shape is refused. -/
theorem cramersRule_of_not_square (other : ¬ (0 < m ∧ m = n ∧ m = k)) (a : DenseMatrix α m n)
    (b : Vector α k) (tolerance : α) : cramersRule a b tolerance = .error .shapeMismatch := by
  rw [cramersRule, squareSystem?, dif_neg other]

theorem cramersRule_ok_or (positive : 0 < n) (a : DenseMatrix α n n) (b : Vector α n)
    (tolerance : α) : (∃ x, cramersRule a b tolerance = .ok x) ∨
      cramersRule a b tolerance = .error .noUniqueSolution := by
  rw [cramersRule_eq positive]
  split
  · exact .inl ⟨_, rfl⟩
  · exact .inr rfl

/-! ### Orthogonalisation -/

section Border

variable (a : DenseMatrix α k k) (above : Vector α k) (corner : α) (i j : Fin k)

@[simp] theorem entry_border_castSucc_castSucc :
    (border a above corner).entry i.castSucc j.castSucc = a.entry i j := by
  simp [border]

@[simp] theorem entry_border_castSucc_last :
    (border a above corner).entry i.castSucc (Fin.last k) = above.get i := by
  simp [border]

@[simp] theorem entry_border_last_castSucc :
    (border a above corner).entry (Fin.last k) j.castSucc = 0 := by
  simp [border]

@[simp] theorem entry_border_last_last :
    (border a above corner).entry (Fin.last k) (Fin.last k) = corner := by
  simp [border]

end Border

/-- The lengths of the projections of a vector on columns of length one. -/
def projections (q : DenseMatrix α m k) (v : Vector α m) : Vector α k :=
  .ofFn fun j => dot (q.column j) v

/-- A vector without its projections on the columns of a matrix. -/
def leftover (q : DenseMatrix α m k) (v : Vector α m) : Vector α m :=
  subtractProjections q (projections q v) v

/-- A column is added if what is left of it is longer than the tolerance. -/
theorem Factors.extend_eq (tolerance : α) (factors : Factors α m k) (v : Vector α m) :
    factors.extend tolerance v =
      if below tolerance (norm (leftover factors.q v)) then
        .ok ⟨factors.q.appendColumn
            ((leftover factors.q v).map (· / norm (leftover factors.q v))),
          border factors.r (projections factors.q v) (norm (leftover factors.q v))⟩
      else .error .noUniqueSolution :=
  rfl

/-- Everything below the diagonal of `r` is exactly zero. -/
def Factors.IsUpper (factors : Factors α m k) : Prop :=
  ∀ i j, j < i → factors.r.entry i j = 0

/-- A new column puts zeros below the diagonal. -/
theorem Factors.IsUpper.extend {tolerance : α} {factors : Factors α m k} {v : Vector α m}
    {extended : Factors α m (k + 1)} (upper : factors.IsUpper)
    (done : factors.extend tolerance v = .ok extended) : extended.IsUpper := by
  rw [Factors.extend_eq] at done
  split at done
  · cases done
    intro i j below
    induction j using Fin.lastCases with
    | last => exact absurd (Fin.le_last i) (Fin.not_le.mpr below)
    | cast j =>
        induction i using Fin.lastCases with
        | last => exact entry_border_last_castSucc ..
        | cast i => exact (entry_border_castSucc_castSucc ..).trans (upper i j below)
  · cases done

/-- The factors with a last column are those of the columns before it with this column added. -/
theorem orthogonalize_succ_eq_ok {tolerance : α} {column : Fin (k + 1) → Vector α m}
    {factors : Factors α m (k + 1)} (done : orthogonalize tolerance column = .ok factors) :
    ∃ before, orthogonalize tolerance (fun j => column j.castSucc) = .ok before ∧
      before.extend tolerance (column (Fin.last k)) = .ok factors := by
  rw [orthogonalize] at done
  cases front : orthogonalize tolerance fun j => column j.castSucc with
  | error cause => rw [front] at done; cases done
  | ok before =>
      rw [front] at done
      exact ⟨before, rfl, done⟩

theorem isUpper_of_orthogonalize {tolerance : α} {column : Fin n → Vector α m}
    {factors : Factors α m n} (done : orthogonalize tolerance column = .ok factors) :
    factors.IsUpper := by
  induction n with
  | zero => exact fun i => i.elim0
  | succ n ih =>
      obtain ⟨before, front, added⟩ := orthogonalize_succ_eq_ok done
      exact (ih front).extend added

theorem orthogonalize_ok_or (tolerance : α) (column : Fin k → Vector α m) :
    (∃ factors, orthogonalize tolerance column = .ok factors) ∨
      orthogonalize tolerance column = .error .noUniqueSolution := by
  induction k with
  | zero => exact .inl ⟨_, rfl⟩
  | succ k ih =>
      rw [orthogonalize]
      rcases ih fun j => column j.castSucc with ⟨before, front⟩ | failed
      · rw [front, Except.bind, Factors.extend_eq]
        split
        · exact .inl ⟨_, rfl⟩
        · exact .inr rfl
      · rw [failed]
        exact .inr rfl

theorem gramSchmidt_eq (positive : 0 < n) (tall : n ≤ m) (a : DenseMatrix α m n)
    (tolerance : α) : gramSchmidt a tolerance = orthogonalize tolerance a.column :=
  if_neg (by omega)

theorem gramSchmidt_ok_or (positive : 0 < n) (tall : n ≤ m) (a : DenseMatrix α m n)
    (tolerance : α) : (∃ factors, gramSchmidt a tolerance = .ok factors) ∨
      gramSchmidt a tolerance = .error .noUniqueSolution := by
  rw [gramSchmidt_eq positive tall]
  exact orthogonalize_ok_or tolerance a.column

end Calculator.Linear
