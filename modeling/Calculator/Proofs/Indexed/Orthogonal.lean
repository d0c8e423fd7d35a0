import Calculator.Linear.Orthogonal
import Calculator.Proofs.Indexed.Access

/-!
Gram-Schmidt orthogonalisation and the eigenvalue iteration in place.

The run overwrites a copy of the matrix column by column, and fills a matrix of zeros with the
projections and the lengths. After `k` columns its state holds the factors of the first `k`
columns, the columns that are still to come, and zeros (`partialFactors`).
-/

namespace Calculator.Indexed

open Arithmetic Linear

variable {α : Type} [Arithmetic α] {m n k : Nat}

/-! ### The loops -/

/-- Subtract from column `i` its projection on column `j`. -/
def projectOut (a : DenseMatrix α m n) (i : Nat) (factors : Factors α m n) (j : Nat) :
    Run (Factors α m n) :=
  (fetchColumn factors.q j).bind fun done =>
    (fetchColumn a i).bind fun v =>
      let projection := dot done v
      (store factors.r j i projection).bind fun r =>
        (fetchColumn factors.q i).bind fun rest =>
          (storeColumn factors.q i
            (Vector.ofFn fun l => rest.get l - done.get l * projection)).map fun q => ⟨q, r⟩

/-- Subtract from column `i` its projections on the columns before it, and divide what remains
by its length. -/
def orthogonalizeColumn (tolerance : α) (a : DenseMatrix α m n) (factors : Factors α m n)
    (i : Nat) : Run (Factors α m n) :=
  ((List.range i).foldlM (projectOut a i) factors).bind fun projected =>
    (fetchColumn projected.q i).bind fun rest =>
      let length := norm rest
      (store projected.r i i length).bind fun r =>
        if below tolerance length then
          (storeColumn projected.q i (rest.map (· / length))).map fun q => ⟨q, r⟩
        else .error (.failed (.linear .noUniqueSolution))

/-- The state of the loop over the columns in front of column `k`. -/
def columnsDone (tolerance : α) (a : DenseMatrix α m n) (k : Nat) : Run (Factors α m n) :=
  (List.range k).foldlM (orthogonalizeColumn tolerance a) ⟨a, .ofFn fun _ _ => 0⟩

def gramSchmidtRun (a : DenseMatrix α m n) (tolerance : α) : Run (Factors α m n) :=
  if n = 0 ∨ m < n then .error (.failed (.linear .shapeMismatch))
  else
    (List.range n).foldlM (orthogonalizeColumn tolerance a) ⟨a, .ofFn fun _ _ => 0⟩

/-- Replace a matrix by the product of its factors in reverse order. Only a reported failure
of the decomposition ends the iteration with a matrix. -/
def iterateFactorsRun (tolerance : α) : (rounds : Nat) → DenseMatrix α n n →
    Run (DenseMatrix α n n)
  | 0, a => .ok a
  | rounds + 1, a =>
      match gramSchmidtRun a tolerance with
      | .ok factors => iterateFactorsRun tolerance rounds (factors.r.mul factors.q)
      | .error (.failed _) => .ok a
      | .error .outOfRange => .error .outOfRange

def squareRun (a : DenseMatrix α m n) : Run (DenseMatrix α m m) :=
  if same : m = n then .ok (.ofFn fun i j => a.entry i (j.cast same))
  else .error (.failed (.linear .shapeMismatch))

def eigenvaluesRun (a : DenseMatrix α m n) (rounds : Nat) (tolerance : α) : Run (Vector α m) :=
  if m = 0 then .error (.failed (.linear .shapeMismatch))
  else
    (squareRun a).bind fun square =>
      (iterateFactorsRun tolerance rounds square).map DenseMatrix.diagonal

/-! ### One column -/

/-- The state of the run in front of column `k`. -/
def partialFactors (a : DenseMatrix α m n) (factors : Factors α m k) : Factors α m n where
  q := .ofFn fun r c => if done : c.val < k then factors.q.entry r ⟨c, done⟩ else a.entry r c
  r := .ofFn fun r c =>
    if done : r.val < k ∧ c.val < k then factors.r.entry ⟨r, done.1⟩ ⟨c, done.2⟩ else 0

section OneColumn

variable (a : DenseMatrix α m n) (factors : Factors α m k) (inside : k < n)

/-- The state of the run while column `k` is taken: what is left of the column, and the
entries that are written above the diagonal. -/
def duringColumn (column : Vector α m × (Fin k → α)) : Factors α m n where
  q := (partialFactors a factors).q.replaceColumn ⟨k, inside⟩ column.1
  r := .ofFn fun r c =>
    if above : c.val = k ∧ r.val < k then column.2 ⟨r, above.2⟩
    else (partialFactors a factors).r.entry r c

/-- The projections of column `k` on the columns before it. -/
def projectionsBefore : Vector α k :=
  .ofFn fun j => dot (factors.q.column j) (a.column ⟨k, inside⟩)

section During

variable (column : Vector α m × (Fin k → α))

theorem fetchColumn_during_done (j : Fin k) :
    fetchColumn (duringColumn a factors inside column).q j = .ok (factors.q.column j) := by
  refine (fetchColumn_val _ (j.castLE inside.le)).trans (congrArg Except.ok (ext_get fun r => ?_))
  have other : j.val ≠ k := j.isLt.ne
  simp [duringColumn, partialFactors, Fin.ext_iff, other]

theorem fetchColumn_during_current :
    fetchColumn (duringColumn a factors inside column).q k = .ok column.1 := by
  refine (fetchColumn_val _ ⟨k, inside⟩).trans (congrArg Except.ok (ext_get fun r => ?_))
  simp [duringColumn]

theorem storeColumn_during (v : Vector α m) :
    storeColumn (duringColumn a factors inside column).q k v =
      .ok ((partialFactors a factors).q.replaceColumn ⟨k, inside⟩ v) := by
  refine (storeColumn_val _ ⟨k, inside⟩ v).trans
    (congrArg Except.ok (DenseMatrix.ext_entry fun r c => ?_))
  by_cases current : c = ⟨k, inside⟩
  · simp [current]
  · simp [duringColumn, current]

theorem store_during (j : Fin k) (x : α) :
    store (duringColumn a factors inside column).r j k x =
      .ok (duringColumn a factors inside (column.1, Function.update column.2 j x)).r := by
  refine (store_val _ (j.castLE inside.le) ⟨k, inside⟩ x).trans
    (congrArg Except.ok (DenseMatrix.ext_entry fun r c => ?_))
  by_cases above : c.val = k ∧ r.val < k
  · simp [duringColumn, above, Function.update_apply, Fin.ext_iff]
  · have elsewhere : ¬ (r = j.castLE inside.le ∧ c = ⟨k, inside⟩) := by
      rintro ⟨rfl, rfl⟩
      exact above ⟨rfl, j.isLt⟩
    simp [duringColumn, above, elsewhere]

/-- One projection, which changes the column and one entry above the diagonal. -/
theorem projectOut_during (j : Fin k) :
    projectOut a k (duringColumn a factors inside column) j =
      .ok (duringColumn a factors inside
        (.ofFn fun l => column.1.get l -
            factors.q.entry l j * (projectionsBefore a factors inside).get j,
          Function.update column.2 j ((projectionsBefore a factors inside).get j))) := by
  have read : fetchColumn a k = .ok (a.column ⟨k, inside⟩) := fetchColumn_val a ⟨k, inside⟩
  rw [projectOut, fetchColumn_during_done, read]
  simp only [Except.bind, Except.map, store_during, fetchColumn_during_current,
    storeColumn_during, DenseMatrix.get_column, projectionsBefore, get_ofFn]
  rfl

/-- The projections are subtracted from the column one after the other. -/
theorem projectOuts_during :
    (List.range k).foldlM (projectOut a k) (duringColumn a factors inside column) =
      .ok (duringColumn a factors inside
        (subtractProjections factors.q (projectionsBefore a factors inside) column.1,
          (projectionsBefore a factors inside).get)) := by
  let p := projectionsBefore a factors inside
  let next (column : Vector α m × (Fin k → α)) (j : Fin k) : Vector α m × (Fin k → α) :=
    (.ofFn fun l => column.1.get l - factors.q.entry l j * p.get j,
      Function.update column.2 j (p.get j))
  rw [foldlM_range, foldlM_eq_ok_foldl (duringColumn a factors inside)
    (fun column j _ => projectOut_during a factors inside column j) column]
  refine congrArg (fun column => Except.ok (duringColumn a factors inside column))
    (Prod.ext ?rest (funext fun i => ?above))
  case rest =>
    rw [subtractProjections, Fin.foldl_eq_finRange_foldl]
    exact (List.foldl_hom Prod.fst fun _ _ => rfl).symm
  case above =>
    have separate : ((List.finRange k).foldl next column).2 =
        (List.finRange k).foldl (fun u j => Function.update u j (p.get j)) column.2 :=
      (List.foldl_hom Prod.snd fun _ _ => rfl).symm
    refine (congrFun separate i).trans ?_
    rw [foldl_update (List.nodup_finRange k) fun j _ => p.get j, if_pos (List.mem_finRange i)]

end During

theorem duringColumn_start :
    duringColumn a factors inside (a.column ⟨k, inside⟩, fun _ => 0) =
      partialFactors a factors := by
  refine congrArg₂ Factors.mk (DenseMatrix.ext_entry fun r c => ?_)
    (DenseMatrix.ext_entry fun r c => ?_)
  · rw [entry_replaceColumn]
    split
    · rename_i current
      simp [current]
    · rfl
  · rw [DenseMatrix.entry_ofFn]
    split
    · rename_i above
      simp [above]
    · rfl

/-- The column that is done and the entries written for it, as one column more. -/
theorem partialFactors_extend (rest done : Vector α m) (above : Vector α k) (corner : α) :
    partialFactors a ⟨factors.q.appendColumn done, border factors.r above corner⟩ =
      ⟨(partialFactors a factors).q.replaceColumn ⟨k, inside⟩ done,
        setEntry (duringColumn a factors inside (rest, above.get)).r ⟨k, inside⟩ ⟨k, inside⟩
          corner⟩ := by
  refine congrArg₂ Factors.mk (DenseMatrix.ext_entry fun r c => ?_)
    (DenseMatrix.ext_entry fun r c => ?_)
  · simp only [partialFactors, DenseMatrix.appendColumn, DenseMatrix.entry_ofFn,
      entry_replaceColumn, Fin.ext_iff]
    grind
  · simp only [partialFactors, duringColumn, border, DenseMatrix.entry_ofFn, entry_setEntry,
      Fin.ext_iff]
    grind

/-- One column of the run is one column more of the factors. -/
theorem orthogonalizeColumn_eq (tolerance : α) :
    orthogonalizeColumn tolerance a (partialFactors a factors) k =
      (report .linear (factors.extend tolerance (a.column ⟨k, inside⟩))).map
        (partialFactors a) := by
  have corner (r : DenseMatrix α n n) (x : α) :
      store r k k x = .ok (setEntry r ⟨k, inside⟩ ⟨k, inside⟩ x) :=
    store_val r ⟨k, inside⟩ ⟨k, inside⟩ x
  -- The length of what is left is written below the projections before it is tested.
  rw [orthogonalizeColumn, ← duringColumn_start a factors inside, projectOuts_during,
    Factors.extend, ← projectionsBefore]
  simp only [Except.bind, fetchColumn_during_current, storeColumn_during, corner]
  split
  · exact congrArg Except.ok (partialFactors_extend a factors inside _ _ _ _).symm
  · rfl

end OneColumn

/-! ### The runs give the results -/

/-- In front of column `k` the loop holds the factors of the columns before it. -/
theorem columnsDone_eq (tolerance : α) (a : DenseMatrix α m n) : (k : Nat) → (bound : k ≤ n) →
    columnsDone tolerance a k =
      (report .linear (orthogonalize tolerance fun j : Fin k => a.column (j.castLE bound))).map
        (partialFactors a)
  | 0, _ => by
      refine congrArg Except.ok (congrArg₂ Factors.mk ?_ ?_)
      · simp
      · simp
  | k + 1, bound => by
      have before : columnsDone tolerance a k =
          (report .linear (orthogonalize tolerance fun j : Fin k =>
            a.column (j.castSucc.castLE bound))).map (partialFactors a) :=
        columnsDone_eq tolerance a k (Nat.le_of_succ_le bound)
      rw [columnsDone, List.range_succ, List.foldlM_append, ← columnsDone, before, orthogonalize,
        report_bind]
      cases report .linear (orthogonalize tolerance fun j : Fin k =>
          a.column (j.castSucc.castLE bound)) with
      | error stop => rfl
      | ok factors =>
          exact (bind_pure _).trans (orthogonalizeColumn_eq a factors bound tolerance)

theorem partialFactors_all (a : DenseMatrix α m n) (factors : Factors α m n) :
    partialFactors a factors = factors := by
  refine congrArg₂ Factors.mk ?_ ?_
  · simp
  · simp

theorem gramSchmidtRun_eq (a : DenseMatrix α m n) (tolerance : α) :
    gramSchmidtRun a tolerance = report .linear (gramSchmidt a tolerance) := by
  rw [gramSchmidtRun, gramSchmidt]
  split
  · rfl
  · rw [← columnsDone, columnsDone_eq tolerance a n (Nat.le_refl n),
      funext (partialFactors_all a)]
    exact congrFun Except.map_id _

theorem iterateFactorsRun_eq (tolerance : α) : (rounds : Nat) → (a : DenseMatrix α n n) →
    iterateFactorsRun tolerance rounds a = .ok (iterateFactors tolerance rounds a)
  | 0, _ => rfl
  | rounds + 1, a => by
      rw [iterateFactorsRun, iterateFactors, gramSchmidtRun_eq]
      cases gramSchmidt a tolerance with
      | error cause => rfl
      | ok factors => exact iterateFactorsRun_eq tolerance rounds _

theorem eigenvaluesRun_eq (a : DenseMatrix α m n) (rounds : Nat) (tolerance : α) :
    eigenvaluesRun a rounds tolerance = report .linear (eigenvalues a rounds tolerance) := by
  rw [eigenvaluesRun, eigenvalues, squareRun]
  by_cases shape : 0 < m ∧ m = n
  · rw [if_neg shape.1.ne', dif_pos shape.2, dif_pos shape]
    simp only [Except.bind, iterateFactorsRun_eq]
    rfl
  · rw [dif_neg shape]
    split
    · rfl
    · rename_i nonempty
      rw [dif_neg fun same => shape ⟨Nat.pos_of_ne_zero nonempty, same⟩]
      rfl

end Calculator.Indexed
