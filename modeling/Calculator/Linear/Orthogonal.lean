import Calculator.Failure
import Calculator.Linear.DenseMatrix

/-!
QR decomposition by classical Gram-Schmidt orthogonalisation, and the eigenvalue
iteration built on it.

The columns are taken in turn. From each one its projections on the columns done so far
are subtracted, and what remains is divided by its length; so the factors of the first
columns do not depend on the later ones.
-/

namespace Calculator.Linear

open Arithmetic

variable {α : Type} {m n k : Nat}

/-- A matrix `q` of `k` columns and an upper triangular matrix `r`. -/
structure Factors (α : Type) (m k : Nat) where
  q : DenseMatrix α m k
  r : DenseMatrix α k k

variable [Arithmetic α]

/-- A square matrix with one more row and column: zeros below, `above` in the new column
and `corner` on the diagonal. -/
def border (a : DenseMatrix α k k) (above : Vector α k) (corner : α) :
    DenseMatrix α (k + 1) (k + 1) :=
  .ofFn fun i j =>
    if column : j.val < k then
      if row : i.val < k then a.entry ⟨i.val, row⟩ ⟨j.val, column⟩ else 0
    else
      if row : i.val < k then above.get ⟨i.val, row⟩ else corner

/-- Subtract from a vector its projections on the columns of a matrix, from left to
right. -/
def subtractProjections (q : DenseMatrix α m k) (projections : Vector α k) (v : Vector α m) :
    Vector α m :=
  Fin.foldl k (fun rest j =>
    Vector.ofFn fun i => rest.get i - q.entry i j * projections.get j) v

/-- Add a column to the factors. It has to be longer than the tolerance once its
projections are gone. -/
def Factors.extend (tolerance : α) (factors : Factors α m k) (v : Vector α m) :
    Except LinearError (Factors α m (k + 1)) :=
  let projections : Vector α k := .ofFn fun j => dot (factors.q.column j) v
  let rest := subtractProjections factors.q projections v
  let length := norm rest
  if below tolerance length then
    .ok ⟨factors.q.appendColumn (rest.map (· / length)), border factors.r projections length⟩
  else .error .noUniqueSolution

/-- The factors of the matrix with given columns. -/
def orthogonalize (tolerance : α) : {k : Nat} → (Fin k → Vector α m) →
    Except LinearError (Factors α m k)
  | 0, _ => .ok ⟨.ofFn fun _ => Fin.elim0, .ofFn fun _ => Fin.elim0⟩
  | k + 1, column =>
      (orthogonalize tolerance fun j => column j.castSucc).bind fun factors =>
        factors.extend tolerance (column (Fin.last k))

/-- The decomposition `a = q · r` of a matrix with at least as many rows as columns, and
at least one column. -/
def gramSchmidt (a : DenseMatrix α m n) (tolerance : α) : Except LinearError (Factors α m n) :=
  if n = 0 ∨ m < n then .error .shapeMismatch else orthogonalize tolerance a.column

/-- Replace a matrix by the product of its factors in reverse order, up to `rounds` times;
a matrix that cannot be decomposed ends the iteration. -/
def iterateFactors (tolerance : α) : (rounds : Nat) → DenseMatrix α n n → DenseMatrix α n n
  | 0, a => a
  | rounds + 1, a =>
      match gramSchmidt a tolerance with
      | .ok factors => iterateFactors tolerance rounds (factors.r.mul factors.q)
      | .error _ => a

/-- Estimates of the eigenvalues of a square matrix: the diagonal after the iteration. -/
def eigenvalues (a : DenseMatrix α m n) (rounds : Nat) (tolerance : α) :
    Except LinearError (Vector α m) :=
  if shape : 0 < m ∧ m = n then
    .ok (iterateFactors tolerance rounds
      (.ofFn fun i j => a.entry i (j.cast shape.2) : DenseMatrix α m m)).diagonal
  else .error .shapeMismatch

end Calculator.Linear
