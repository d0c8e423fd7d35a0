import Calculator.Linear.Elimination
import Calculator.Proofs.Linear.Matrix

/-!
What elimination does in one column, for every arithmetic.

A column is reduced if its pivot passes the test against the tolerance, and the reduced
matrix does not depend on the tolerance (`reduceColumn_eq`). The pivot row, the pivot and
the reduced columns left of the right-hand side do not depend on the right-hand side
(`SameLeft`), so neither does the course of an elimination
(`SameLeft.of_reduceColumns`).
-/

namespace Calculator.Linear

open Arithmetic

variable {α : Type} [Arithmetic α] {n : Nat}

/-! ### Shapes -/

omit [Arithmetic α] in
theorem squareSystem?_of_pos (positive : 0 < n) (a : DenseMatrix α n n) (b : Vector α n) :
    squareSystem? a b = some (a, b) := by
  have right : Vector.ofFn b.get = b := ext_get fun i => get_ofFn _ i
  simp [squareSystem?, positive, right]

/-- A square system that is not empty is handed to elimination. -/
theorem gaussJordan_of_pos (positive : 0 < n) (a : DenseMatrix α n n) (b : Vector α n)
    (tolerance : α) : gaussJordan a b tolerance = eliminate a b tolerance := by
  rw [gaussJordan, squareSystem?_of_pos positive]

/-- Any other shape is refused. -/
theorem gaussJordan_of_not_square {m k : Nat} (other : ¬ (0 < m ∧ m = n ∧ m = k))
    (a : DenseMatrix α m n) (b : Vector α k) (tolerance : α) :
    gaussJordan a b tolerance = .error .shapeMismatch := by
  rw [gaussJordan, squareSystem?, dif_neg other]

/-! ### One column -/

/-- The entry of a column on which the test against the tolerance is made. -/
def pivot (a : DenseMatrix α n (n + 1)) (i : Fin n) : α :=
  a.entry (pivotRow a i) i.castSucc

/-- One column reduced with the pivot it has, whatever its magnitude. -/
def reducedAt (a : DenseMatrix α n (n + 1)) (i : Fin n) : DenseMatrix α n (n + 1) :=
  clearColumn (normalizeRow (swapRows a i (pivotRow a i)) i) i

omit [Arithmetic α] in
@[simp] theorem entry_swapRows (a : DenseMatrix α n (n + 1)) (i j r : Fin n)
    (c : Fin (n + 1)) :
    (swapRows a i j).entry r c = a.entry (if r = i then j else if r = j then i else r) c := by
  simp [swapRows]

theorem reduceColumn_eq (tolerance : α) (a : DenseMatrix α n (n + 1)) (i : Fin n) :
    reduceColumn tolerance a i =
      if atMost tolerance (abs (pivot a i)) then .ok (reducedAt a i)
      else .error .noUniqueSolution := by
  simp only [reduceColumn, entry_swapRows, if_true]
  rfl

/-- The last step of an elimination that succeeds. -/
theorem reduceColumns_succ_eq_ok {tolerance : α} {a final : DenseMatrix α n (n + 1)}
    {count : Nat} {bound : count + 1 ≤ n}
    (done : reduceColumns tolerance a (count + 1) bound = .ok final) :
    ∃ reduced, reduceColumns tolerance a count (Nat.le_of_succ_le bound) = .ok reduced ∧
      atMost tolerance (abs (pivot reduced ⟨count, bound⟩)) = true ∧
      final = reducedAt reduced ⟨count, bound⟩ := by
  rw [reduceColumns] at done
  cases before : reduceColumns tolerance a count (Nat.le_of_succ_le bound) with
  | error cause => simp [before, Except.bind] at done
  | ok reduced =>
      simp only [before, Except.bind, reduceColumn_eq] at done
      split at done
      · rename_i passes
        exact ⟨reduced, rfl, passes, (Except.ok.inj done).symm⟩
      · cases done

/-- What an elimination returns is the last column of a matrix that passed all tests. -/
theorem eliminate_eq_ok {a : DenseMatrix α n n} {b x : Vector α n} {tolerance : α}
    (done : eliminate a b tolerance = .ok x) :
    ∃ m, reduceColumns tolerance (a.appendColumn b) n (Nat.le_refl n) = .ok m ∧
      x = m.column (Fin.last n) := by
  rw [eliminate] at done
  cases run : reduceColumns tolerance (a.appendColumn b) n (Nat.le_refl n) with
  | error cause => simp [run, Except.map] at done
  | ok m =>
      simp only [run, Except.map, Except.ok.injEq] at done
      exact ⟨m, rfl, done.symm⟩

/-- An elimination that fails says that there is no unique solution. -/
theorem error_of_reduceColumns {tolerance : α} {a : DenseMatrix α n (n + 1)}
    {cause : LinearError} : ∀ {count : Nat} {bound : count ≤ n},
    reduceColumns tolerance a count bound = .error cause → cause = .noUniqueSolution
  | 0, _, failed => by cases failed
  | count + 1, bound, failed => by
      rw [reduceColumns] at failed
      cases before : reduceColumns tolerance a count (Nat.le_of_succ_le bound) with
      | error earlier =>
          simp only [before, Except.bind, Except.error.injEq] at failed
          exact failed ▸ error_of_reduceColumns before
      | ok reduced =>
          simp only [before, Except.bind, reduceColumn_eq] at failed
          split at failed
          · cases failed
          · exact (Except.error.inj failed).symm

/-- An elimination returns a vector or says that there is no unique solution. -/
theorem eliminate_ok_or (a : DenseMatrix α n n) (b : Vector α n) (tolerance : α) :
    (∃ x, eliminate a b tolerance = .ok x) ∨
      eliminate a b tolerance = .error .noUniqueSolution := by
  rw [eliminate]
  cases run : reduceColumns tolerance (a.appendColumn b) n (Nat.le_refl n) with
  | error cause => exact .inr (congrArg _ (error_of_reduceColumns run))
  | ok m => exact .inl ⟨_, rfl⟩

/-! ### The right-hand side has no influence -/

/-- Two augmented matrices that agree in all columns but the last. -/
def SameLeft (a a' : DenseMatrix α n (n + 1)) : Prop :=
  ∀ (r c : Fin n), a.entry r c.castSucc = a'.entry r c.castSucc

namespace SameLeft

variable {a a' : DenseMatrix α n (n + 1)}

omit [Arithmetic α] in
theorem appendColumn (a : DenseMatrix α n n) (b b' : Vector α n) :
    SameLeft (a.appendColumn b) (a.appendColumn b') := by
  intro r c
  simp

theorem pivotRow_eq (same : SameLeft a a') (i : Fin n) : pivotRow a i = pivotRow a' i := by
  simp only [pivotRow, same _ i]

theorem pivot_eq (same : SameLeft a a') (i : Fin n) : pivot a i = pivot a' i := by
  rw [pivot, pivot, same.pivotRow_eq, same _ i]

omit [Arithmetic α] in
theorem swapRows (same : SameLeft a a') (i j : Fin n) :
    SameLeft (swapRows a i j) (swapRows a' i j) := by
  intro r c
  simp only [entry_swapRows]
  exact same _ c

theorem normalizeRow (same : SameLeft a a') (i : Fin n) :
    SameLeft (normalizeRow a i) (normalizeRow a' i) := by
  intro r c
  simp only [Linear.normalizeRow, DenseMatrix.entry_ofFn, same _ _]

theorem clearColumn (same : SameLeft a a') (i : Fin n) :
    SameLeft (clearColumn a i) (clearColumn a' i) := by
  intro r c
  simp only [Linear.clearColumn, DenseMatrix.entry_ofFn, same _ _]

theorem reducedAt (same : SameLeft a a') (i : Fin n) :
    SameLeft (reducedAt a i) (reducedAt a' i) := by
  unfold Linear.reducedAt
  rw [same.pivotRow_eq]
  exact ((same.swapRows i _).normalizeRow i).clearColumn i

/-- Two eliminations that start from the same left-hand side and both get through `count`
columns still have the same left-hand side, whatever their tolerances. -/
theorem of_reduceColumns (same : SameLeft a a') {tolerance tolerance' : α} :
    ∀ {count : Nat} {bound : count ≤ n} {m m' : DenseMatrix α n (n + 1)},
    reduceColumns tolerance a count bound = .ok m →
    reduceColumns tolerance' a' count bound = .ok m' → SameLeft m m'
  | 0, _, _, _, done, done' => by
      cases done
      cases done'
      exact same
  | count + 1, bound, _, _, done, done' => by
      obtain ⟨reduced, before, -, rfl⟩ := reduceColumns_succ_eq_ok done
      obtain ⟨reduced', before', -, rfl⟩ := reduceColumns_succ_eq_ok done'
      exact (same.of_reduceColumns before before').reducedAt _

end SameLeft

end Calculator.Linear
