import Calculator.Proofs.Indexed.Access
import Calculator.Proofs.Linear.Reduction

/-!
Gauss-Jordan elimination in place.

The augmented matrix is changed cell by cell under row and column numbers: the pivot is
searched, rows are exchanged, one row is divided and all others are cleared. Each of these
loops is what the entry formulas of the elimination say (`reduceRun_eq`), so the run gives
the result of the elimination (`gaussJordanRun_eq`) and stays in range.
-/

namespace Calculator.Indexed

open Arithmetic Linear

variable {α : Type} [Arithmetic α] {m n k w : Nat}

/-! ### The loops -/

/-- Add a column of zeros and write the right-hand side into it. -/
def augment (a : DenseMatrix α m n) (b : Vector α k) : Run (DenseMatrix α m (n + 1)) :=
  storeColumn (a.appendColumn (.replicate m 0)) n b

/-- The number of the row, from the diagonal down, with the largest magnitude in a column. -/
def findPivot (a : DenseMatrix α m w) (column : Nat) : Run Nat :=
  (span (column + 1) m).foldlM (fun best row =>
    (fetch a row column).bind fun candidate =>
      (fetch a best column).map fun largest =>
        if below (Arithmetic.abs largest) (Arithmetic.abs candidate) then row else best) column

def exchangeRows (a : DenseMatrix α m w) (i j : Nat) : Run (DenseMatrix α m w) :=
  if inside : i < m ∧ j < m then
    .ok (.ofFn fun r c =>
      a.entry (if r = ⟨i, inside.1⟩ then ⟨j, inside.2⟩ else if r = ⟨j, inside.2⟩ then
        ⟨i, inside.1⟩ else r) c)
  else .error .outOfRange

def divideCells (divisor : α) (row : Nat) (columns : List Nat) (a : DenseMatrix α m w) :
    Run (DenseMatrix α m w) :=
  columns.foldlM (fun a column =>
    (fetch a row column).bind fun x => store a row column (x / divisor)) a

/-- Subtract a multiple of one row from another in some columns. -/
def subtractCells (factor : α) (source row : Nat) (columns : List Nat)
    (a : DenseMatrix α m w) : Run (DenseMatrix α m w) :=
  columns.foldlM (fun a column =>
    (fetch a row column).bind fun x =>
      (fetch a source column).bind fun y => store a row column (x - factor * y)) a

/-- Clear the cell of a row in the pivot column, unless it is the pivot row or clear. -/
def clearRow (i : Nat) (a : DenseMatrix α m w) (row : Nat) : Run (DenseMatrix α m w) :=
  if row = i then .ok a
  else
    (fetch a row i).bind fun factor =>
      if factor == 0 then .ok a else subtractCells factor i row (span i (m + 1)) a

def reduceRun (tolerance : α) (a : DenseMatrix α m w) (i : Nat) : Run (DenseMatrix α m w) :=
  (findPivot a i).bind fun best =>
    (exchangeRows a i best).bind fun swapped =>
      (fetch swapped i i).bind fun pivot =>
        if atMost tolerance (Arithmetic.abs pivot) then
          (divideCells pivot i (span i (m + 1)) swapped).bind fun normalized =>
            (List.range m).foldlM (clearRow i) normalized
        else .error (.failed (.linear .noUniqueSolution))

/-- Solve `a · x = b` in place. -/
def gaussJordanRun (a : DenseMatrix α m n) (b : Vector α k) (tolerance : α) :
    Run (Vector α m) :=
  if 0 < m ∧ m = n ∧ m = k then
    (augment a b).bind fun augmented =>
      ((List.range m).foldlM (reduceRun tolerance) augmented).bind fun reduced =>
        fetchColumn reduced m
  else .error (.failed (.linear .shapeMismatch))

/-! ### What the loops do -/

omit [Arithmetic α] in
theorem fetch_castSucc (a : DenseMatrix α m (n + 1)) (i : Fin m) (j : Fin n) :
    fetch a i j = .ok (a.entry i j.castSucc) :=
  fetch_val a i j.castSucc

theorem augment_eq (a : DenseMatrix α m n) (b : Vector α m) :
    augment a b = .ok (a.appendColumn b) := by
  rw [augment]
  refine (storeColumn_val _ (Fin.last n) b).trans (congrArg Except.ok ?_)
  apply DenseMatrix.ext_entry
  intro r c
  rw [entry_replaceColumn]
  induction c using Fin.lastCases with
  | last => simp
  | cast c => simp [Fin.castSucc_ne_last]

theorem findPivot_eq (a : DenseMatrix α n (n + 1)) (i : Fin n) :
    findPivot a i = .ok (pivotRow a i).val := by
  let next (best row : Fin n) : Fin n :=
    if below (Arithmetic.abs (a.entry best i.castSucc))
      (Arithmetic.abs (a.entry row i.castSucc)) then row else best
  have each (best row : Fin n) (_ : row ∈ positionsFrom (i + 1) n) :
      ((fetch a row i).bind fun candidate => (fetch a best i).map fun largest =>
        if below (Arithmetic.abs largest) (Arithmetic.abs candidate) then row.val
        else best.val) = .ok (next best row).val := by
    rw [fetch_castSucc, fetch_castSucc]
    simp only [Except.bind, Except.map, next]
    split <;> rfl
  rw [findPivot, foldlM_span, foldlM_eq_ok_foldl Fin.val each, pivotRow,
    Fin.foldl_eq_finRange_foldl, positionsFrom, List.foldl_filter]
  congr 3
  funext best row
  by_cases behind : i < row
  · simp [next, behind, Nat.succ_le_of_lt behind]
  · simp [behind]

omit [Arithmetic α] in
theorem exchangeRows_eq (a : DenseMatrix α n (n + 1)) (i j : Fin n) :
    exchangeRows a i j = .ok (swapRows a i j) :=
  dif_pos ⟨i.isLt, j.isLt⟩

theorem divideCells_span (a : DenseMatrix α m w) (i : Fin m) (start : Nat) (divisor : α) :
    divideCells divisor i (span start w) a = .ok (withRow a i fun c =>
      if start ≤ c.val then a.entry i c / divisor else a.entry i c) := by
  rw [divideCells, foldlM_span,
    foldlM_changeRow i (fun _ x => x / divisor) ?each (nodup_positionsFrom start w)]
  case each =>
    intro u j
    simp only [fetch_val, store_val, Except.bind, entry_withRow, if_true, setEntry_withRow]
  simp only [mem_positionsFrom]

/-- The source row stays as it is, since it is not the row that is changed. -/
theorem subtractCells_span (a : DenseMatrix α m w) {i k : Fin m} (other : k ≠ i) (start : Nat)
    (factor : α) :
    subtractCells factor i k (span start w) a = .ok (withRow a k fun c =>
      if start ≤ c.val then a.entry k c - factor * a.entry i c else a.entry k c) := by
  rw [subtractCells, foldlM_span,
    foldlM_changeRow k (fun c x => x - factor * a.entry i c) ?each (nodup_positionsFrom start w)]
  case each =>
    intro u j
    simp only [fetch_val, store_val, Except.bind, entry_withRow, if_true, if_neg other.symm,
      setEntry_withRow]
  simp only [mem_positionsFrom]

theorem normalizeRow_eq (a : DenseMatrix α n (n + 1)) (i : Fin n) :
    normalizeRow a i = withRow a i fun c =>
      if i.val ≤ c.val then a.entry i c / a.entry i i.castSucc else a.entry i c := by
  apply DenseMatrix.ext_entry
  intro r c
  rw [normalizeRow, DenseMatrix.entry_ofFn, entry_withRow]
  by_cases atRow : r = i
  · simp [atRow, Fin.le_def]
  · simp [atRow]

/-- A row other than the pivot row once its cell in the pivot column is cleared. -/
def cleared (pivotCells : Fin (n + 1) → α) (i : Fin n) (cells : Fin (n + 1) → α) :
    Fin (n + 1) → α := fun c =>
  if c < i.castSucc then cells c
  else if cells i.castSucc == 0 then cells c
  else cells c - cells i.castSucc * pivotCells c

/-- A matrix with given rows, except for one row that is kept. -/
def keepRow (i : Fin n) (pivotCells : Fin (n + 1) → α) (rows : Fin n → Fin (n + 1) → α) :
    DenseMatrix α n (n + 1) :=
  withRow (.ofFn rows) i pivotCells

theorem clearRow_keepRow (i k : Fin n) (pivotCells : Fin (n + 1) → α)
    (rows : Fin n → Fin (n + 1) → α) :
    clearRow i (keepRow i pivotCells rows) k =
      .ok (keepRow i pivotCells (Function.update rows k (cleared pivotCells i (rows k)))) := by
  rw [clearRow]
  by_cases same : k = i
  · rw [if_pos (congrArg Fin.val same)]
    refine congrArg Except.ok (DenseMatrix.ext_entry fun r c => ?_)
    by_cases atRow : r = i
    · simp [keepRow, atRow]
    · simp [keepRow, atRow, same]
  · rw [if_neg (Fin.val_ne_of_ne same), fetch_castSucc]
    simp only [Except.bind]
    have cell (c : Fin (n + 1)) : (keepRow i pivotCells rows).entry k c = rows k c := by
      simp [keepRow, same]
    rw [cell]
    split
    · rename_i clear
      have unchanged : cleared pivotCells i (rows k) = rows k := by
        funext c
        simp [cleared, clear]
      rw [unchanged, Function.update_eq_self]
    · rename_i filled
      rw [subtractCells_span _ same]
      refine congrArg Except.ok (DenseMatrix.ext_entry fun r c => ?_)
      rw [entry_withRow, cell]
      by_cases atRow : r = k
      · simp [keepRow, cleared, atRow, same, filled, Fin.lt_def]
        grind
      · simp [keepRow, atRow]

theorem keepRow_cleared (a : DenseMatrix α n (n + 1)) (i : Fin n) :
    keepRow i (a.entry i) (fun k => cleared (a.entry i) i (a.entry k)) = clearColumn a i := by
  apply DenseMatrix.ext_entry
  intro r c
  rw [keepRow, clearColumn, entry_withRow, DenseMatrix.entry_ofFn, DenseMatrix.entry_ofFn]
  by_cases atRow : r = i
  · simp [atRow]
  · simp [atRow, cleared]

/-- The rows are cleared one after the other, and the pivot row is the same all the time. -/
theorem clearRows_eq (a : DenseMatrix α n (n + 1)) (i : Fin n) :
    (List.range n).foldlM (clearRow i) a = .ok (clearColumn a i) := by
  -- The pivot row is part of the view, so a round needs no condition on the rows before it.
  have start : keepRow i (a.entry i) a.entry = a := by
    rw [keepRow, DenseMatrix.ofFn_entry, withRow_self]
  have run : (List.finRange n).foldlM (fun a k => clearRow i a k.val)
      (keepRow i (a.entry i) a.entry) = .ok (keepRow i (a.entry i)
        ((List.finRange n).foldl (fun rows k =>
          Function.update rows k (cleared (a.entry i) i (rows k))) a.entry)) :=
    foldlM_eq_ok_foldl (keepRow i (a.entry i))
      (fun rows k _ => clearRow_keepRow i k (a.entry i) rows) a.entry
  rw [start] at run
  rw [foldlM_range, run, ← keepRow_cleared]
  refine congrArg (fun rows => Except.ok (keepRow i (a.entry i) rows)) (funext fun k => ?_)
  rw [foldl_update (List.nodup_finRange n) fun _ => cleared (a.entry i) i,
    if_pos (List.mem_finRange k)]

/-! ### The run gives the result -/

theorem reduceRun_eq (tolerance : α) (a : DenseMatrix α n (n + 1)) (i : Fin n) :
    reduceRun tolerance a i = report .linear (reduceColumn tolerance a i) := by
  rw [reduceRun, findPivot_eq, reduceColumn]
  simp only [Except.bind, exchangeRows_eq, fetch_castSucc, divideCells_span, ← normalizeRow_eq,
    clearRows_eq]
  split <;> rfl

theorem reduceRuns_eq (tolerance : α) (a : DenseMatrix α n (n + 1)) :
    (count : Nat) → (bound : count ≤ n) →
    (List.range count).foldlM (reduceRun tolerance) a =
      report .linear (reduceColumns tolerance a count bound)
  | 0, _ => rfl
  | count + 1, bound => by
      rw [List.range_succ, List.foldlM_append,
        reduceRuns_eq tolerance a count (Nat.le_of_succ_le bound), reduceColumns, report_bind]
      refine congrArg (Except.bind _) (funext fun reduced => ?_)
      exact (bind_pure _).trans (reduceRun_eq tolerance reduced ⟨count, bound⟩)

/-- Elimination in place gives the result of the elimination, for every shape. -/
theorem gaussJordanRun_eq (a : DenseMatrix α m n) (b : Vector α k) (tolerance : α) :
    gaussJordanRun a b tolerance = report .linear (gaussJordan a b tolerance) := by
  rw [gaussJordanRun]
  split
  · rename_i shape
    obtain ⟨positive, rfl, rfl⟩ := shape
    rw [gaussJordan_of_pos positive, eliminate, augment_eq, report_map]
    simp only [Except.bind, reduceRuns_eq tolerance (a.appendColumn b) m (Nat.le_refl m)]
    cases report .linear (reduceColumns tolerance (a.appendColumn b) m (Nat.le_refl m)) with
    | error stop => rfl
    | ok reduced => exact fetchColumn_val reduced (Fin.last m)
  · rename_i other
    rw [gaussJordan_of_not_square other]
    rfl

end Calculator.Indexed
