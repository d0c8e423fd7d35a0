import Calculator.Linear.DenseMatrix
import Mathlib.LinearAlgebra.Matrix.Determinant.Basic

/-!
Stored matrices as matrices: `toMatrix` forgets how the entries are kept, and the
operations on stored matrices become the usual ones.
-/

namespace Calculator.Linear

/-- Vectors with the same entries are equal. -/
theorem ext_get {α : Type} {n : Nat} {u v : Vector α n} (same : ∀ i, u.get i = v.get i) :
    u = v :=
  Vector.ext fun i hi => same ⟨i, hi⟩

/-- A vector is computed if each of its entries is. -/
theorem ofFnM_eq_ok_iff {ε α : Type} {n : Nat} {f : Fin n → Except ε α} {v : Vector α n} :
    Vector.ofFnM f = .ok v ↔ ∀ i, f i = .ok (v.get i) := by
  constructor
  · intro computed
    induction n with
    | zero => exact fun i => i.elim0
    | succ n ih =>
        rw [Vector.ofFnM_succ] at computed
        cases init : Vector.ofFnM fun i : Fin n => f i.castSucc with
        | error e => rw [init] at computed; cases computed
        | ok front =>
            cases last : f (Fin.last n) with
            | error e => rw [init, last] at computed; cases computed
            | ok x =>
                rw [init, last] at computed
                cases computed
                intro i
                induction i using Fin.lastCases with
                | last =>
                    have pushed : (front.push x).get (Fin.last n) = x := Vector.getElem_push_last
                    rw [last, pushed]
                | cast i =>
                    have kept : (front.push x).get i.castSucc = front.get i :=
                      Vector.getElem_push_lt i.isLt
                    rw [kept, ih init i]
  · intro each
    obtain rfl : f = fun i => pure (v.get i) := funext each
    rw [Vector.ofFnM_pure]
    exact congrArg _ (ext_get fun i => get_ofFn _ i)

namespace DenseMatrix

variable {α : Type} {m n : Nat}

def toMatrix (a : DenseMatrix α m n) : Matrix (Fin m) (Fin n) α :=
  .of a.entry

@[simp] theorem toMatrix_apply (a : DenseMatrix α m n) (i : Fin m) (j : Fin n) :
    a.toMatrix i j = a.entry i j := rfl

@[simp] theorem entry_appendColumn_castSucc (a : DenseMatrix α m n) (b : Vector α m)
    (r : Fin m) (c : Fin n) : (a.appendColumn b).entry r c.castSucc = a.entry r c := by
  simp [appendColumn]

@[simp] theorem entry_appendColumn_last (a : DenseMatrix α m n) (b : Vector α m)
    (r : Fin m) : (a.appendColumn b).entry r (Fin.last n) = b.get r := by
  simp [appendColumn]

@[simp] theorem get_column (a : DenseMatrix α m n) (j : Fin n) (i : Fin m) :
    (a.column j).get i = a.entry i j := by
  simp [column]

theorem skip_eq_succAbove (removed : Fin (n + 1)) (k : Fin n) :
    skip removed k = removed.succAbove k := rfl

theorem toMatrix_minor (a : DenseMatrix α (m + 1) (n + 1)) (i : Fin (m + 1))
    (j : Fin (n + 1)) : (a.minor i j).toMatrix = a.toMatrix.submatrix i.succAbove j.succAbove := by
  ext r c
  simp [minor, skip_eq_succAbove]

theorem toMatrix_replaceColumn (a : DenseMatrix α m n) (j : Fin n) (b : Vector α m) :
    (a.replaceColumn j b).toMatrix = a.toMatrix.updateCol j b.get := by
  ext r c
  simp [replaceColumn, Matrix.updateCol_apply]

end DenseMatrix

end Calculator.Linear
