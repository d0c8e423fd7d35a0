import Calculator.Failure
import Calculator.Linear.DenseMatrix

/-!
Gauss-Jordan elimination with partial pivoting.

The matrix of the system, with the right-hand side as its last column, is reduced column
by column: the row with the largest entry of the column is moved up, divided by that
entry, and subtracted from all other rows. A pivot below the tolerance means that there
is no unique solution.
-/

namespace Calculator.Linear

open Arithmetic

variable {α : Type} {m n k : Nat}

/-- A system with as many rows as columns, at least one, and a right-hand side of that
length; `none` for any other shape. -/
def squareSystem? (a : DenseMatrix α m n) (b : Vector α k) :
    Option (DenseMatrix α m m × Vector α m) :=
  if shape : 0 < m ∧ m = n ∧ m = k then
    some (.ofFn fun i j => a.entry i (j.cast shape.2.1),
      .ofFn fun i => b.get (i.cast shape.2.2))
  else none

variable [Arithmetic α]

/-- The row at or below the diagonal whose entry in the column has the largest magnitude,
the uppermost of several. -/
def pivotRow (a : DenseMatrix α n (n + 1)) (column : Fin n) : Fin n :=
  Fin.foldl n (fun best row =>
    if column < row && below (abs (a.entry best column.castSucc))
        (abs (a.entry row column.castSucc)) then row
    else best) column

def swapRows (a : DenseMatrix α n (n + 1)) (i j : Fin n) : DenseMatrix α n (n + 1) :=
  .ofFn fun r c => a.entry (if r = i then j else if r = j then i else r) c

/-- Divide a row by its diagonal entry, from the diagonal on. -/
def normalizeRow (a : DenseMatrix α n (n + 1)) (i : Fin n) : DenseMatrix α n (n + 1) :=
  .ofFn fun r c =>
    if r = i ∧ i.castSucc ≤ c then a.entry r c / a.entry i i.castSucc else a.entry r c

/-- Subtract multiples of a row from all others, from the diagonal on, so that they vanish
in its diagonal column. A row that vanishes there already is left alone. -/
def clearColumn (a : DenseMatrix α n (n + 1)) (i : Fin n) : DenseMatrix α n (n + 1) :=
  .ofFn fun r c =>
    if r = i ∨ c < i.castSucc then a.entry r c
    else if a.entry r i.castSucc == 0 then a.entry r c
    else a.entry r c - a.entry r i.castSucc * a.entry i c

def reduceColumn (tolerance : α) (a : DenseMatrix α n (n + 1)) (i : Fin n) :
    Except LinearError (DenseMatrix α n (n + 1)) :=
  let swapped := swapRows a i (pivotRow a i)
  if atMost tolerance (abs (swapped.entry i i.castSucc)) then
    .ok (clearColumn (normalizeRow swapped i) i)
  else .error .noUniqueSolution

/-- Reduce the first `count` columns, from left to right. -/
def reduceColumns (tolerance : α) (a : DenseMatrix α n (n + 1)) :
    (count : Nat) → count ≤ n → Except LinearError (DenseMatrix α n (n + 1))
  | 0, _ => .ok a
  | count + 1, bound =>
      (reduceColumns tolerance a count (Nat.le_of_succ_le bound)).bind fun reduced =>
        reduceColumn tolerance reduced ⟨count, bound⟩

/-- Solve a square system by elimination: the last column of the reduced matrix. -/
def eliminate (a : DenseMatrix α n n) (b : Vector α n) (tolerance : α) :
    Except LinearError (Vector α n) :=
  (reduceColumns tolerance (a.appendColumn b) n (Nat.le_refl n)).map (·.column (Fin.last n))

/-- Solve `a · x = b` by Gauss-Jordan elimination. -/
def gaussJordan (a : DenseMatrix α m n) (b : Vector α k) (tolerance : α) :
    Except LinearError (Vector α m) :=
  match squareSystem? a b with
  | some (square, right) => eliminate square right tolerance
  | none => .error .shapeMismatch

end Calculator.Linear
