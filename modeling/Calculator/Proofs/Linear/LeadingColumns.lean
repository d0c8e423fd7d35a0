import Calculator.Number.Double
import Calculator.Proofs.Indexed.Orthogonal
import Calculator.Proofs.Linear.Outcomes

/-!
Orthogonalisation column by column, for every arithmetic.

What is computed from the first columns of a matrix does not depend on the later ones: a new
column leaves the factors before it as they are (`Factors.leading_of_extend`), and so the factors
of a matrix begin with those of its first columns (`orthogonalize_leading`). The loop that works
in place, stopped in front of a column, holds just these factors, next to the columns that it has
not reached (`columnsDone_eq_gramSchmidt`). Main statement: `gramSchmidt_columnwise`.
-/

namespace Calculator.Linear

variable {α : Type} {m n k l : Nat}

/-! ### Parts of matrices and factors -/

def DenseMatrix.firstColumns (a : DenseMatrix α m n) (bound : k ≤ n) : DenseMatrix α m k :=
  .ofFn fun i j => a.entry i (j.castLE bound)

@[simp] theorem DenseMatrix.entry_firstColumns (a : DenseMatrix α m n) (bound : k ≤ n) (i : Fin m)
    (j : Fin k) : (a.firstColumns bound).entry i j = a.entry i (j.castLE bound) := by
  simp [firstColumns]

theorem DenseMatrix.column_firstColumns (a : DenseMatrix α m n) (bound : k ≤ n) :
    (a.firstColumns bound).column = fun j => a.column (j.castLE bound) := by
  funext j
  exact ext_get fun i => by simp

namespace Factors

/-- The first columns of `q` and the leading block of `r`. -/
def leading (factors : Factors α m n) (bound : k ≤ n) : Factors α m k where
  q := factors.q.firstColumns bound
  r := .ofFn fun i j => factors.r.entry (i.castLE bound) (j.castLE bound)

theorem leading_refl (factors : Factors α m n) : factors.leading (Nat.le_refl n) = factors :=
  congrArg₂ Factors.mk (DenseMatrix.ofFn_entry factors.q) (DenseMatrix.ofFn_entry factors.r)

theorem leading_leading (factors : Factors α m n) (inner : l ≤ k) (outer : k ≤ n) :
    (factors.leading outer).leading inner = factors.leading (inner.trans outer) := by
  refine congrArg₂ Factors.mk (DenseMatrix.ext_entry fun i j => ?_)
    (DenseMatrix.ext_entry fun i j => ?_)
  · simp [leading]
  · simp [leading]

variable [Arithmetic α] {tolerance : α} {factors : Factors α m k} {v : Vector α m}
  {extended : Factors α m (k + 1)}

/-- A new column leaves the factors of the columns before it as they are. -/
theorem leading_of_extend (done : factors.extend tolerance v = .ok extended) :
    extended.leading (Nat.le_succ k) = factors := by
  rw [extend_eq] at done
  split at done
  · cases done
    refine congrArg₂ Factors.mk (DenseMatrix.ext_entry fun i j => ?_)
      (DenseMatrix.ext_entry fun i j => ?_)
    · exact (DenseMatrix.entry_ofFn _ i j).trans (DenseMatrix.entry_appendColumn_castSucc ..)
    · exact (DenseMatrix.entry_ofFn _ i j).trans (entry_border_castSucc_castSucc ..)
  · cases done

end Factors

/-! ### The factors of the first columns -/

section Columns

variable [Arithmetic α] {tolerance : α}

/-- The factors begin with those of the first columns. -/
theorem orthogonalize_leading {column : Fin n → Vector α m} {factors : Factors α m n}
    (done : orthogonalize tolerance column = .ok factors) (bound : k ≤ n) :
    orthogonalize tolerance (fun j : Fin k => column (j.castLE bound)) =
      .ok (factors.leading bound) := by
  -- The last column is left out, again and again, until the first ones remain.
  induction bound with
  | refl => rw [factors.leading_refl]; exact done
  | step bound ih =>
      obtain ⟨before, front, added⟩ := orthogonalize_succ_eq_ok done
      have first := ih front
      rw [← Factors.leading_of_extend added, Factors.leading_leading] at first
      exact first

/-- If the first columns are refused, so are all of them. -/
theorem orthogonalize_of_refused {column : Fin n → Vector α m} (bound : k ≤ n)
    (refused : orthogonalize tolerance (fun j : Fin k => column (j.castLE bound)) =
      .error .noUniqueSolution) : orthogonalize tolerance column = .error .noUniqueSolution := by
  refine (orthogonalize_ok_or tolerance column).resolve_left ?_
  rintro ⟨factors, done⟩
  cases refused.symm.trans (orthogonalize_leading done bound)

theorem gramSchmidt_firstColumns (a : DenseMatrix α m n) (tolerance : α) (positive : 0 < k)
    (bound : k ≤ n) (tall : n ≤ m) : gramSchmidt (a.firstColumns bound) tolerance =
      orthogonalize tolerance fun j : Fin k => a.column (j.castLE bound) := by
  rw [gramSchmidt_eq positive (bound.trans tall), DenseMatrix.column_firstColumns]

end Columns

end Calculator.Linear

namespace Calculator.Indexed

open Linear

variable {α : Type} [Arithmetic α] {m n k : Nat}

/-! ### The loop in place -/

/-- In front of column `k` the loop holds the factors of the first `k` columns, the columns that
it has not reached, and zeros. -/
theorem columnsDone_eq_gramSchmidt (tolerance : α) (a : DenseMatrix α m n) (positive : 0 < k)
    (bound : k ≤ n) (tall : n ≤ m) : columnsDone tolerance a k =
      (report .linear (gramSchmidt (a.firstColumns bound) tolerance)).map (partialFactors a) := by
  rw [gramSchmidt_firstColumns a tolerance positive bound tall]
  exact columnsDone_eq tolerance a k bound

end Calculator.Indexed

namespace Calculator.Linear

open Indexed

/-- Orthogonalisation of a matrix with at least as many rows as columns takes one column after
the other. If it gives factors, then that of the first `k` columns gives the first `k` columns of
`q` and the leading block of `r`, and everything below the diagonal of `r` is exactly zero. If
the first `k` columns are refused, so is the matrix. The loop in place on the whole matrix,
stopped in front of column `k`, has come to the answer for the first `k` columns, and the other
columns are still those of the matrix. -/
theorem gramSchmidt_columnwise {α : Type} [Arithmetic α] {m n k : Nat} (a : DenseMatrix α m n)
    (tolerance : α) (positive : 0 < k) (bound : k ≤ n) (tall : n ≤ m) :
    (∀ factors, gramSchmidt a tolerance = .ok factors →
      gramSchmidt (a.firstColumns bound) tolerance = .ok (factors.leading bound) ∧
      factors.IsUpper) ∧
    (gramSchmidt (a.firstColumns bound) tolerance = .error .noUniqueSolution →
      gramSchmidt a tolerance = .error .noUniqueSolution) ∧
    columnsDone tolerance a k =
      (report .linear (gramSchmidt (a.firstColumns bound) tolerance)).map (partialFactors a) := by
  refine ⟨fun factors done => ?_, fun refused => ?_,
    columnsDone_eq_gramSchmidt tolerance a positive bound tall⟩
  · rw [gramSchmidt_eq (positive.trans_le bound) tall] at done
    rw [gramSchmidt_firstColumns a tolerance positive bound tall]
    exact ⟨orthogonalize_leading done bound, isUpper_of_orthogonalize done⟩
  · rw [gramSchmidt_firstColumns a tolerance positive bound tall] at refused
    rw [gramSchmidt_eq (positive.trans_le bound) tall]
    exact orthogonalize_of_refused bound refused

/-- With rounded numbers, the factors of three columns begin with those of the first two, and a
matrix whose second column depends on its first is refused because of them. -/
theorem gramSchmidt_columnwise_rounded :
    let a : DenseMatrix Float 3 3 := ⟨#v[#v[1, 2, 0], #v[1, 0, 1], #v[0, 1, 1]]⟩
    let dependent : DenseMatrix Float 3 3 := ⟨#v[#v[1, 2, 0], #v[1, 2, 1], #v[0, 0, 1]]⟩
    have bound : 2 ≤ 3 := by decide
    (∃ factors, gramSchmidt a 0.5 = .ok factors ∧
      gramSchmidt (a.firstColumns bound) 0.5 = .ok (factors.leading bound) ∧ factors.IsUpper) ∧
    gramSchmidt (dependent.firstColumns bound) 0.5 = .error .noUniqueSolution ∧
    gramSchmidt dependent 0.5 = .error .noUniqueSolution := by
  intro a dependent bound
  obtain ⟨factors, done⟩ : ∃ factors, gramSchmidt a 0.5 = .ok factors :=
    exists_value_of_isOk (by decide +kernel)
  have fails : gramSchmidt (dependent.firstColumns bound) 0.5 = .error .noUniqueSolution := by
    have notOk : (gramSchmidt (dependent.firstColumns bound) 0.5).isOk = false := by decide +kernel
    refine (gramSchmidt_ok_or Nat.two_pos bound _ _).resolve_left ?_
    rintro ⟨factors, done⟩
    rw [done] at notOk
    cases notOk
  have whole := gramSchmidt_columnwise a 0.5 Nat.two_pos bound (Nat.le_refl 3)
  have front := gramSchmidt_columnwise dependent 0.5 Nat.two_pos bound (Nat.le_refl 3)
  exact ⟨⟨factors, done, whole.1 factors done⟩, fails, front.2.1 fails⟩

end Calculator.Linear
