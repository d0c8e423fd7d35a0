import Calculator.Linear.Elimination

/-!
Determinants, and Cramer's rule.
-/

namespace Calculator.Linear

open Arithmetic

variable {α : Type} [Arithmetic α] {m n k : Nat}

/-- The sign of a position in the first row: plus and minus in turns. -/
def cofactorSign (j : Nat) : α :=
  if j % 2 = 0 then 1 else -1

/-- The determinant, by cofactor expansion along the first row. -/
def determinant : {n : Nat} → DenseMatrix α n n → α
  | 0, _ => 1
  | 1, a => a.entry 0 0
  | _ + 2, a =>
      sumTerms fun j => cofactorSign j * a.entry 0 j * determinant (a.minor 0 j)

/-- Solve a square system by quotients of determinants. -/
def solveByDeterminants (a : DenseMatrix α n n) (b : Vector α n) (tolerance : α) :
    Except LinearError (Vector α n) :=
  let whole := determinant a
  if atMost tolerance (abs whole) then
    .ok (.ofFn fun i => determinant (a.replaceColumn i b) / whole)
  else .error .noUniqueSolution

/-- Solve `a · x = b` by Cramer's rule. -/
def cramersRule (a : DenseMatrix α m n) (b : Vector α k) (tolerance : α) :
    Except LinearError (Vector α m) :=
  match squareSystem? a b with
  | some (square, right) => solveByDeterminants square right tolerance
  | none => .error .shapeMismatch

end Calculator.Linear
