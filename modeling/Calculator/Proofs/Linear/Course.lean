import Calculator.Proofs.Linear.Reduction
import Mathlib.Data.Fintype.Basic
import Mathlib.Tactic.SplitIfs

/-!
The course of an elimination, for every arithmetic.

`pivots` lists the entries on which an elimination makes its tests. They do not depend on the
tolerance, and an elimination goes through exactly if all of them pass (`reduceColumns_eq`). Nor
do they depend on the right-hand side: an elimination makes the same choices with any other one
(`gaussJordan_course`).
-/

namespace Calculator.Linear

open Arithmetic

variable {α : Type} [Arithmetic α] {n : Nat}

/-! ### Elimination without tests -/

/-- The matrix with its first `count` columns reduced, whatever the magnitude of a pivot. -/
def reducedTo (a : DenseMatrix α n (n + 1)) :
    (count : Nat) → count ≤ n → DenseMatrix α n (n + 1)
  | 0, _ => a
  | count + 1, bound => reducedAt (reducedTo a count (Nat.le_of_succ_le bound)) ⟨count, bound⟩

/-- The pivots that an elimination meets, column by column. -/
def pivots (a : DenseMatrix α n (n + 1)) (i : Fin n) : α :=
  pivot (reducedTo a i.val (Nat.le_of_lt i.isLt)) i

/-- An elimination goes through the first columns exactly if their pivots pass the test. -/
theorem reduceColumns_eq (tolerance : α) (a : DenseMatrix α n (n + 1)) :
    ∀ (count : Nat) (bound : count ≤ n), reduceColumns tolerance a count bound =
      if ∀ i : Fin n, i.val < count → atMost tolerance (abs (pivots a i)) = true then
        .ok (reducedTo a count bound)
      else .error .noUniqueSolution
  | 0, _ => by
      rw [if_pos fun i before => absurd before (Nat.not_lt_zero _)]
      rfl
  | count + 1, bound => by
      have split : (∀ i : Fin n, i.val < count + 1 → atMost tolerance (abs (pivots a i)) = true) ↔
          (∀ i : Fin n, i.val < count → atMost tolerance (abs (pivots a i)) = true) ∧
            atMost tolerance (abs (pivots a ⟨count, bound⟩)) = true := by
        constructor
        · intro all
          exact ⟨fun i before => all i (Nat.lt_succ_of_lt before), all _ (Nat.lt_succ_self count)⟩
        · rintro ⟨earlier, current⟩ i before
          rcases Nat.lt_succ_iff_lt_or_eq.mp before with before | same
          · exact earlier i before
          · exact (Fin.ext same : i = ⟨count, bound⟩) ▸ current
      rw [if_congr split rfl rfl, ite_and, reduceColumns, reduceColumns_eq tolerance a count]
      split_ifs with earlier current
      · exact (reduceColumn_eq ..).trans (if_pos current)
      · exact (reduceColumn_eq ..).trans (if_neg current)
      · rfl

/-- Elimination succeeds exactly if all pivots pass the test. -/
theorem eliminate_eq (a : DenseMatrix α n n) (b : Vector α n) (tolerance : α) :
    eliminate a b tolerance =
      if ∀ i, atMost tolerance (abs (pivots (a.appendColumn b) i)) = true then
        .ok ((reducedTo (a.appendColumn b) n (Nat.le_refl n)).column (Fin.last n))
      else .error .noUniqueSolution := by
  rw [eliminate, reduceColumns_eq]
  by_cases all : ∀ i, atMost tolerance (abs (pivots (a.appendColumn b) i)) = true
  · rw [if_pos all, if_pos fun i _ => all i]
    rfl
  · rw [if_neg all, if_neg fun before => all fun i => before i i.isLt]
    rfl

/-! ### The choices -/

/-- What an elimination sees when it comes to a column: the row that it moves up and the pivot
in it, or the failure that it ended with before. -/
def choiceAt (tolerance : α) (a : DenseMatrix α n (n + 1)) (i : Fin n) :
    Except LinearError (Fin n × α) :=
  (reduceColumns tolerance a i.val (Nat.le_of_lt i.isLt)).map fun reduced =>
    (pivotRow reduced i, pivot reduced i)

/-- A choice is made if all pivots before it pass the test. -/
theorem choiceAt_eq (tolerance : α) (a : DenseMatrix α n (n + 1)) (i : Fin n) :
    choiceAt tolerance a i =
      if ∀ j : Fin n, j < i → atMost tolerance (abs (pivots a j)) = true then
        .ok (pivotRow (reducedTo a i.val (Nat.le_of_lt i.isLt)) i, pivots a i)
      else .error .noUniqueSolution := by
  rw [choiceAt, reduceColumns_eq]
  exact apply_ite (Except.map _) _ _ _

/-- Elimination fails exactly if it comes to a pivot that does not pass the test. -/
theorem eliminate_eq_error_iff_exists (a : DenseMatrix α n n) (b : Vector α n) (tolerance : α) :
    eliminate a b tolerance = .error .noUniqueSolution ↔
      ∃ i row pivot, choiceAt tolerance (a.appendColumn b) i = .ok (row, pivot) ∧
        atMost tolerance (abs pivot) = false := by
  rw [eliminate_eq]
  constructor
  · intro failed
    have some_fails : ∃ i, ¬ atMost tolerance (abs (pivots (a.appendColumn b) i)) = true := by
      by_contra none_fails
      push Not at none_fails
      rw [if_pos none_fails] at failed
      cases failed
    -- the first of them is the one that the elimination comes to
    obtain ⟨i, fails, first⟩ := WellFounded.has_min (wellFounded_lt (α := Fin n))
      {i | ¬ atMost tolerance (abs (pivots (a.appendColumn b) i)) = true} some_fails
    have earlier (j : Fin n) (before : j < i) :
        atMost tolerance (abs (pivots (a.appendColumn b) j)) = true :=
      not_not.mp fun fails => first j fails before
    exact ⟨i, _, _, (choiceAt_eq ..).trans (if_pos earlier), Bool.eq_false_of_not_eq_true fails⟩
  · rintro ⟨i, row, pivot, chosen, fails⟩
    rw [choiceAt_eq] at chosen
    split at chosen
    · cases chosen
      exact if_neg fun all => Bool.false_ne_true (fails.symm.trans (all i))
    · cases chosen

/-! ### The right-hand side has no influence -/

namespace SameLeft

variable {a a' : DenseMatrix α n (n + 1)}

theorem reducedTo (same : SameLeft a a') : ∀ (count : Nat) (bound : count ≤ n),
    SameLeft (reducedTo a count bound) (reducedTo a' count bound)
  | 0, _ => same
  | count + 1, bound => (same.reducedTo count (Nat.le_of_succ_le bound)).reducedAt _

/-- The right-hand side has no influence on the pivots. -/
theorem pivots_eq (same : SameLeft a a') : pivots a = pivots a' :=
  funext fun i => (same.reducedTo i.val (Nat.le_of_lt i.isLt)).pivot_eq i

/-- The right-hand side has no influence on the choices. -/
theorem choiceAt_eq (same : SameLeft a a') (tolerance : α) (i : Fin n) :
    choiceAt tolerance a i = choiceAt tolerance a' i := by
  rw [Linear.choiceAt_eq, Linear.choiceAt_eq, same.pivots_eq,
    (same.reducedTo i.val (Nat.le_of_lt i.isLt)).pivotRow_eq]

end SameLeft

/-- Whether elimination succeeds does not depend on the right-hand side. -/
theorem eliminate_eq_error_iff (a : DenseMatrix α n n) (b b' : Vector α n) (tolerance : α) :
    eliminate a b tolerance = .error .noUniqueSolution ↔
      eliminate a b' tolerance = .error .noUniqueSolution := by
  rw [eliminate_eq_error_iff_exists, eliminate_eq_error_iff_exists]
  simp only [(SameLeft.appendColumn a b b').choiceAt_eq]

/-- The right-hand side has no influence on the course of an elimination. In two runs on one
matrix with one tolerance, the same row is moved up in every column and the same pivot is found
in it, until both fail in the same column or neither does. So whether there is a unique solution
is a property of the matrix and the tolerance alone. -/
theorem gaussJordan_course (a : DenseMatrix α n n) (tolerance : α) (b b' : Vector α n) :
    (∀ i, choiceAt tolerance (a.appendColumn b) i = choiceAt tolerance (a.appendColumn b') i) ∧
    (gaussJordan a b tolerance = .error .noUniqueSolution ↔
      gaussJordan a b' tolerance = .error .noUniqueSolution) := by
  refine ⟨(SameLeft.appendColumn a b b').choiceAt_eq tolerance, ?_⟩
  rcases Nat.eq_zero_or_pos n with rfl | positive
  · have empty : ¬ (0 < 0 ∧ 0 = 0 ∧ 0 = 0) := by decide
    rw [gaussJordan_of_not_square empty, gaussJordan_of_not_square empty]
  · rw [gaussJordan_of_pos positive, gaussJordan_of_pos positive]
    exact eliminate_eq_error_iff a b b' tolerance

end Calculator.Linear
