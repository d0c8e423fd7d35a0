import Calculator.Number.Arithmetic
import Mathlib.Algebra.Order.Field.Basic

/-!
Exact arithmetic: an ordered field as a type of numbers.

The operations of `Arithmetic` are those of the field and its order, so the algorithms of
the library can be read without rounding. The square root is the nonnegative root where
the field has one, and zero elsewhere; every number is finite.
-/

namespace Calculator.Exact

variable {K : Type} [Field K] [LinearOrder K]

open Classical in
noncomputable scoped instance exactArithmetic : Arithmetic K where
  beq x y := decide (x = y)
  abs x := |x|
  sqrt x := if root : ∃ y, 0 ≤ y ∧ y * y = x then root.choose else 0
  below x y := decide (x < y)
  atMost x y := decide (x ≤ y)
  isFinite _ := true

-- The field's own operations are found first; those of `Arithmetic` unfold to them.
attribute [scoped instance(100)] Arithmetic.toZero Arithmetic.toOne Arithmetic.toNatCast
  Arithmetic.toNeg Arithmetic.toAdd Arithmetic.toSub Arithmetic.toMul Arithmetic.toDiv

@[simp] theorem abs_eq (x : K) : Arithmetic.abs x = |x| := rfl

@[simp] theorem below_iff {x y : K} : Arithmetic.below x y = true ↔ x < y :=
  decide_eq_true_iff

@[simp] theorem atMost_iff {x y : K} : Arithmetic.atMost x y = true ↔ x ≤ y :=
  decide_eq_true_iff

@[simp] theorem beq_iff {x y : K} : (x == y) = true ↔ x = y :=
  decide_eq_true_iff

/-- The square root of a square. -/
theorem sqrt_mul_self [IsStrictOrderedRing K] {y : K} (nonneg : 0 ≤ y) :
    Arithmetic.sqrt (y * y) = y := by
  have root : ∃ z : K, 0 ≤ z ∧ z * z = y * y := ⟨y, nonneg, rfl⟩
  obtain ⟨chosen_nonneg, square⟩ := root.choose_spec
  have chosen : Arithmetic.sqrt (y * y) = root.choose := dif_pos root
  rw [chosen]
  exact (mul_self_inj chosen_nonneg nonneg).mp square

end Calculator.Exact
