import Calculator.Number.Double
import Mathlib.Algebra.Order.Ring.Int
import Mathlib.Data.Prod.Lex

/-!
Laws that rounding does not break.

The operations of `Arithmetic` come without laws, and of those of a field binary64 keeps few.
Two do hold. A value that is not a number is absorbed by every operation and fails every
comparison (`IsAbsorbing`), and the comparisons are transitive (`TransitiveComparison`). For
binary64 both are read off the model of `Float`: an operation looks at a value that is not a
number first, and all other values have a rank by which they are compared (`compare_eq`).
-/

namespace Calculator

open Arithmetic

/-- Values that are not numbers. What is computed from one of them is another one, and every
comparison with one of them fails. -/
structure IsAbsorbing {α : Type} [Arithmetic α] (invalid : α → Prop) : Prop where
  add {x y : α} : invalid x ∨ invalid y → invalid (x + y)
  sub {x y : α} : invalid x ∨ invalid y → invalid (x - y)
  mul {x y : α} : invalid x ∨ invalid y → invalid (x * y)
  div {x y : α} : invalid x ∨ invalid y → invalid (x / y)
  abs {x : α} : invalid x → invalid (Arithmetic.abs x)
  sqrt {x : α} : invalid x → invalid (Arithmetic.sqrt x)
  below {x y : α} : invalid x ∨ invalid y → Arithmetic.below x y = false
  atMost {x y : α} : invalid x ∨ invalid y → Arithmetic.atMost x y = false
  beq_zero {x : α} : invalid x → (x == 0) = false

class TransitiveComparison (α : Type) [Arithmetic α] : Prop where
  atMost_trans {x y z : α} : atMost x y = true → atMost y z = true → atMost x z = true
  below_of_atMost {x y z : α} : atMost x y = true → below y z = true → below x z = true

namespace Double

open Float.Model (Format UnpackedFloat)

/-! ### Comparisons in the model -/

theorem below_eq (x y : Float) :
    below x y = (x.toModel.unpack.compare y.toModel.unpack == some .lt) := by
  change decide (decide ((x.toModel.unpack.compare y.toModel.unpack == some .lt) = true) = true) = _
  rw [Bool.decide_eq_true, Bool.decide_eq_true]

theorem atMost_eq (x y : Float) :
    atMost x y = (x.toModel.unpack.compare y.toModel.unpack).any (·.isLE) := by
  change decide (decide ((x.toModel.unpack.compare y.toModel.unpack).any (·.isLE) = true) = true) = _
  rw [Bool.decide_eq_true, Bool.decide_eq_true]

/-! ### What is not a number -/

theorem unpack_notANumber : notANumber.toModel.unpack = .notANumber := rfl

/-- An operation of the model that absorbs what is not a number does so between numbers. -/
theorem eq_notANumber_of_either (op : UnpackedFloat → UnpackedFloat → UnpackedFloat)
    (left : ∀ number, op .notANumber number = .notANumber)
    (right : ∀ number, op number .notANumber = .notANumber) {x y : Float}
    (either : x = notANumber ∨ y = notANumber) :
    Float.ofModel (.pack (op x.toModel.unpack y.toModel.unpack)) = notANumber := by
  rcases either with rfl | rfl
  · rw [unpack_notANumber, left]
    rfl
  · rw [unpack_notANumber, right]
    rfl

theorem compare_notANumber (number : UnpackedFloat) : number.compare .notANumber = none := by
  cases number <;> rfl

theorem compare_eq_none {x y : Float} (either : x = notANumber ∨ y = notANumber) :
    x.toModel.unpack.compare y.toModel.unpack = none := by
  rcases either with rfl | rfl
  · rfl
  · exact compare_notANumber _

theorem isAbsorbing_notANumber : IsAbsorbing (· = notANumber) where
  add := eq_notANumber_of_either (.add Format.binary64) (fun _ => rfl)
    fun number => by cases number <;> rfl
  sub := eq_notANumber_of_either (.sub Format.binary64) (fun _ => rfl)
    fun number => by cases number <;> rfl
  mul := eq_notANumber_of_either (.mul Format.binary64) (fun _ => rfl)
    fun number => by cases number <;> rfl
  div := eq_notANumber_of_either (.div Format.binary64) (fun _ => rfl)
    fun number => by cases number <;> rfl
  abs := by
    rintro _ rfl
    rfl
  sqrt := by
    rintro _ rfl
    rfl
  below := by
    intro x y either
    rw [below_eq, compare_eq_none either]
    rfl
  atMost := by
    intro x y either
    rw [atMost_eq, compare_eq_none either]
    rfl
  beq_zero := by
    rintro _ rfl
    rfl

/-! ### The rank of a number -/

/-- The rank of a number: first its sign and whether it is zero, finite or infinite, then its
exponent and its significand. For negative numbers these count backwards. -/
def rank : UnpackedFloat → ℤ ×ₗ ℤ ×ₗ ℤ
  | .infinity .negative => toLex (-2, toLex (0, 0))
  | .finite .negative significand exponent _ => toLex (-1, toLex (-exponent, -significand))
  | .zero _ | .notANumber => toLex (0, toLex (0, 0))
  | .finite .positive significand exponent _ => toLex (1, toLex (exponent, significand))
  | .infinity .positive => toLex (2, toLex (0, 0))

theorem compare_toLex {β γ : Type} [LinearOrder β] [LinearOrder γ] (a c : β) (b d : γ) :
    compare (toLex (a, b)) (toLex (c, d)) = (compare a c).then (compare b d) := by
  rw [Prod.Lex.compare_def]
  rfl

theorem compare_neg_neg (a b : ℤ) : compare (-a) (-b) = (compare a b).swap := by
  rw [Int.compare_swap]
  simp only [compare, compareOfLessAndEq, neg_lt_neg_iff, neg_inj, eq_comm]

theorem compare_natCast (a b : ℕ) : compare (a : ℤ) (b : ℤ) = compare a b := by
  simp only [compare, compareOfLessAndEq, Nat.cast_lt, Nat.cast_inj]

/-- Numbers are compared by their rank. -/
theorem compare_eq {x y : UnpackedFloat} (first : x ≠ .notANumber) (second : y ≠ .notANumber) :
    x.compare y = some (compare (rank x) (rank y)) := by
  rcases x with (_ | _) | _ | (_ | _) | ⟨_ | _, significand, exponent, _⟩
  all_goals rcases y with (_ | _) | _ | (_ | _) | ⟨_ | _, significand', exponent', _⟩
  any_goals contradiction
  -- All but two finite numbers of one sign differ in their first component.
  any_goals rfl
  · change some ((compare exponent exponent').then (compare significand significand')).swap =
      some (compare (toLex _) (toLex _))
    rw [compare_toLex, compare_toLex, compare_neg_neg exponent, compare_neg_neg (significand : ℤ),
      compare_natCast, Ordering.swap_then]
    rfl
  · change some ((compare exponent exponent').then (compare significand significand')) =
      some (compare (toLex _) (toLex _))
    rw [compare_toLex, compare_toLex, compare_natCast]
    rfl

theorem compare_eq_some_iff {x y : UnpackedFloat} {order : Ordering} :
    x.compare y = some order ↔
      x ≠ .notANumber ∧ y ≠ .notANumber ∧ compare (rank x) (rank y) = order := by
  by_cases first : x = .notANumber
  · have fails : UnpackedFloat.notANumber.compare y = none := rfl
    rw [first, fails]
    exact ⟨nofun, fun holds => absurd rfl holds.1⟩
  · by_cases second : y = .notANumber
    · rw [second, compare_notANumber]
      exact ⟨nofun, fun holds => absurd rfl holds.2.1⟩
    · rw [compare_eq first second, Option.some_inj]
      exact ⟨fun same => ⟨first, second, same⟩, fun holds => holds.2.2⟩

theorem below_iff {x y : Float} : below x y = true ↔
    x.toModel.unpack ≠ .notANumber ∧ y.toModel.unpack ≠ .notANumber ∧
      rank x.toModel.unpack < rank y.toModel.unpack := by
  rw [below_eq, beq_iff_eq, compare_eq_some_iff, compare_lt_iff_lt]

theorem atMost_iff {x y : Float} : atMost x y = true ↔
    x.toModel.unpack ≠ .notANumber ∧ y.toModel.unpack ≠ .notANumber ∧
      rank x.toModel.unpack ≤ rank y.toModel.unpack := by
  rw [atMost_eq, ← compare_le_iff_le]
  simp [Option.any_eq_true, compare_eq_some_iff, Ordering.isLE_iff_ne_gt, and_assoc]

instance : TransitiveComparison Float where
  atMost_trans first second := by
    rw [atMost_iff] at first second ⊢
    exact ⟨first.1, second.2.1, first.2.2.trans second.2.2⟩
  below_of_atMost first second := by
    rw [atMost_iff] at first
    rw [below_iff] at second ⊢
    exact ⟨first.1, second.2.1, first.2.2.trans_lt second.2.2⟩

end Double

end Calculator
