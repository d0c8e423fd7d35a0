import Calculator.Linear.Determinant
import Calculator.Proofs.Indexed.Access
import Calculator.Proofs.Linear.Reduction

/-!
Determinants and Cramer's rule under row and column numbers.

A minor is what is left when a row and then a column is dropped, and the expansion goes by the
number of rows alone. In a square matrix it never reads outside (`determinantRun_eq`), since
each minor is square again.
-/

namespace Calculator.Indexed

open Arithmetic Linear

variable {α : Type} {m n k : Nat}

/-! ### Minors -/

def dropRow (a : DenseMatrix α (m + 1) n) (row : Nat) : Run (DenseMatrix α m n) :=
  if row < m + 1 then
    .ok (.ofFn fun r c => a.entry (if r.val < row then r.castSucc else r.succ) c)
  else .error .outOfRange

def dropColumn (a : DenseMatrix α m n) (column : Nat) : Run (DenseMatrix α m (n - 1)) :=
  if inside : column < n then
    .ok (.ofFn fun r c => a.entry r
      ⟨if c.val < column then c.val else c.val + 1, by split <;> omega⟩)
  else .error .outOfRange

theorem dropRow_bind_dropColumn (a : DenseMatrix α (m + 1) (n + 1)) (i : Fin (m + 1))
    (j : Fin (n + 1)) :
    ((dropRow a i).bind fun rest => dropColumn rest j) = .ok (a.minor i j) := by
  rw [dropRow, if_pos i.isLt]
  refine (dif_pos j.isLt).trans (congrArg Except.ok (DenseMatrix.ext_entry fun r c => ?_))
  rw [DenseMatrix.minor, DenseMatrix.entry_ofFn, DenseMatrix.entry_ofFn, DenseMatrix.entry_ofFn]
  congr 1
  rw [DenseMatrix.skip, Fin.ext_iff, apply_ite Fin.val]
  rfl

variable [Arithmetic α]

/-! ### Sums -/

/-- Add terms from left to right, starting with the first one. -/
def sumRun (count : Nat) (term : Nat → Run α) : Run α :=
  match count with
  | 0 => .ok 0
  | count + 1 =>
      (term 0).bind fun first =>
        (List.range count).foldlM (fun sum j => (term (j + 1)).map fun x => sum + x) first

theorem sumRun_eq {term : Nat → Run α} {value : Fin n → α}
    (each : ∀ j : Fin n, term j = .ok (value j)) : sumRun n term = .ok (sumTerms value) := by
  cases n with
  | zero => rfl
  | succ n =>
      have add (sum : α) (j : Fin n) (_ : j ∈ List.finRange n) :
          ((term (j.val + 1)).map fun x => sum + x) = .ok (sum + value j.succ) :=
        congrArg (Except.map fun x => sum + x) (each j.succ)
      have start : term 0 = .ok (value 0) := each 0
      rw [sumRun, start, sumTerms, Fin.foldl_eq_finRange_foldl]
      simp only [Except.bind, foldlM_range]
      exact foldlM_eq_ok_foldl id add (value 0)

/-! ### The expansion -/

/-- The determinant of a matrix with the given number of rows. -/
def determinantRun : (m : Nat) → {n : Nat} → DenseMatrix α m n → Run α
  | 0, _, _ => .ok 1
  | 1, _, a => fetch a 0 0
  | m + 2, _, a =>
      sumRun (m + 2) fun j =>
        (fetch a 0 j).bind fun x =>
          ((dropRow a 0).bind fun rest => dropColumn rest j).bind fun minor =>
            (determinantRun (m + 1) minor).map fun d => cofactorSign j * x * d

theorem determinantRun_eq : (n : Nat) → (a : DenseMatrix α n n) →
    determinantRun n a = .ok (determinant a)
  | 0, _ => rfl
  | 1, a => fetch_val a 0 0
  | n + 2, a => by
      rw [determinantRun, determinant]
      refine sumRun_eq fun j => ?_
      have minor := dropRow_bind_dropColumn a 0 j
      have read := fetch_val a 0 j
      rw [Fin.val_zero] at minor read
      rw [read, minor]
      simp only [Except.bind]
      rw [determinantRun_eq (n + 1) (a.minor 0 j)]
      rfl

/-! ### Cramer's rule -/

/-- Solve `a · x = b` by quotients of determinants. -/
def cramersRuleRun (a : DenseMatrix α m n) (b : Vector α k) (tolerance : α) :
    Run (Vector α m) :=
  if 0 < m ∧ m = n ∧ m = k then
    (determinantRun m a).bind fun whole =>
      if atMost tolerance (abs whole) then
        Vector.ofFnM fun i : Fin m =>
          (storeColumn a i b).bind fun replaced =>
            (determinantRun m replaced).map (· / whole)
      else .error (.failed (.linear .noUniqueSolution))
  else .error (.failed (.linear .shapeMismatch))

theorem cramersRuleRun_eq (a : DenseMatrix α m n) (b : Vector α k) (tolerance : α) :
    cramersRuleRun a b tolerance = report .linear (cramersRule a b tolerance) := by
  rw [cramersRuleRun, cramersRule]
  split
  · rename_i shape
    obtain ⟨positive, rfl, rfl⟩ := shape
    rw [squareSystem?_of_pos positive, determinantRun_eq]
    simp only [Except.bind, solveByDeterminants, storeColumn_val, determinantRun_eq]
    split
    · refine ofFnM_eq_ok_iff.mpr fun i => ?_
      rw [get_ofFn]
      rfl
    · rfl
  · rename_i other
    rw [squareSystem?, dif_neg other]
    rfl

end Calculator.Indexed
