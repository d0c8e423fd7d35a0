import Calculator.Decimal.Shortest
import Mathlib.Data.Int.Log
import Mathlib.Data.Rat.Floor
import Mathlib.Tactic.FieldSimp
import Mathlib.Algebra.Order.Field.Power
import Mathlib.Tactic.Positivity

/-!
Exact values are read exactly.

`value` is the rational number that a finite magnitude stands for. Rounding a ratio or a
decimal that has such a value gives this magnitude (`nearest_of_value`,
`ofDecimal_of_value`); so the shortest decimal of a magnitude reads back as it
(`ofDecimal_shortest`), whether it was found on a grid or is the whole expansion.
-/

namespace Calculator.Binary64

/-! ### Significand and exponent -/

variable {bits : Nat}

theorem significand_lt (bits : Nat) : significand bits < 2 * exponentPlace := by
  unfold significand exponentPlace
  split <;> omega

theorem le_significand_or (bits : Nat) :
    exponentPlace ≤ significand bits ∨ exponent bits = -1074 := by
  unfold significand exponent
  split <;> simp

theorem le_exponent (bits : Nat) : -1074 ≤ exponent bits := by
  unfold exponent exponentPlace
  split <;> omega

theorem exponent_le (finite : bits < infinity) : exponent bits ≤ 971 := by
  unfold infinity exponentPlace at finite
  unfold exponent exponentPlace
  split <;> omega

theorem significand_pos (positive : 0 < bits) : 0 < significand bits := by
  unfold significand exponentPlace
  split <;> omega

theorem log2_significand_lt (positive : 0 < bits) : (significand bits).log2 < 53 :=
  (Nat.log2_lt (significand_pos positive).ne').mpr (significand_lt bits)

/-- The exponent is the least that leaves no more than 53 bits to the significand. -/
theorem max_log2_significand (positive : 0 < bits) :
    max ((significand bits).log2 + exponent bits - 52) (-1074) = exponent bits := by
  have upper := log2_significand_lt positive
  have lower := le_exponent bits
  rcases le_significand_or bits with normal | least
  · have full : 52 ≤ (significand bits).log2 :=
      (Nat.le_log2 (significand_pos positive).ne').mpr normal
    omega
  · omega

/-- Significand and exponent together determine a magnitude. -/
theorem place_add_significand (bits : Nat) :
    (exponent bits + 1074).toNat * exponentPlace + significand bits = bits := by
  unfold exponent significand exponentPlace
  split <;> omega

/-- The number that a finite magnitude stands for. -/
def value (bits : Nat) : ℚ :=
  significand bits * 2 ^ exponent bits

/-! ### Scaling -/

theorem scale_den_pos {base : Nat} (base_pos : 0 < base) (power : Int) (num : Nat) {den : Nat}
    (den_pos : 0 < den) : 0 < (scale base power num den).2 := by
  cases power with
  | ofNat k => exact Nat.mul_pos den_pos (Nat.pow_pos base_pos)
  | negSucc k => exact den_pos

/-- Scaling divides a ratio by the power. -/
theorem scale_ratio (base : Nat) (power : Int) (num den : Nat) :
    ((scale base power num den).1 : ℚ) / (scale base power num den).2 =
      num / den / (base : ℚ) ^ power := by
  cases power with
  | ofNat k => simp [scale, div_div]
  | negSucc k =>
      simp [scale, zpow_negSucc]
      ring

/-! ### The greatest power of two -/

theorem eq_log_of_bounds {exponent : Int} {x : ℚ} (lower : 2 ^ exponent ≤ x)
    (upper : x < 2 ^ (exponent + 1)) : exponent = Int.log 2 x := by
  have positive : 0 < x := lt_of_lt_of_le (zpow_pos (by norm_num) _) lower
  apply le_antisymm
  · exact (Int.zpow_le_iff_le_log (by norm_num) positive).mp (by exact_mod_cast lower)
  · exact Int.lt_add_one_iff.mp
      ((Int.lt_zpow_iff_log_lt (by norm_num) positive).mp (by exact_mod_cast upper))

theorem log2_bounds {n : Nat} (positive : 0 < n) :
    (2 : ℚ) ^ (n.log2 : Int) ≤ n ∧ (n : ℚ) < 2 ^ ((n.log2 : Int) + 1) := by
  constructor
  · exact_mod_cast Nat.log2_self_le positive.ne'
  · exact_mod_cast Nat.lt_log2_self (n := n)

/-- A quotient of two numbers lies within a factor of two of the quotient of their greatest
powers of two. -/
theorem floorLog2_eq_log {num den : Nat} (num_pos : 0 < num) (den_pos : 0 < den) :
    floorLog2 num den = Int.log 2 ((num : ℚ) / den) := by
  obtain ⟨num_lower, num_upper⟩ := log2_bounds num_pos
  obtain ⟨den_lower, den_upper⟩ := log2_bounds den_pos
  let guess : Int := num.log2 - den.log2
  have den_pos' : (0 : ℚ) < den := by exact_mod_cast den_pos
  have two_ne : (2 : ℚ) ≠ 0 := by norm_num
  have upper : (num : ℚ) / den < 2 ^ (guess + 1) := by
    rw [div_lt_iff₀ den_pos']
    calc (num : ℚ) < 2 ^ ((num.log2 : Int) + 1) := num_upper
      _ = 2 ^ (guess + 1) * 2 ^ (den.log2 : Int) := by
        rw [← zpow_add₀ two_ne]
        congr 1
        simp only [guess]
        ring
      _ ≤ 2 ^ (guess + 1) * den := by gcongr
  have lower : (2 : ℚ) ^ (guess - 1) ≤ num / den := by
    rw [le_div_iff₀ den_pos']
    calc (2 : ℚ) ^ (guess - 1) * den ≤ 2 ^ (guess - 1) * 2 ^ ((den.log2 : Int) + 1) := by gcongr
      _ = 2 ^ (num.log2 : Int) := by
        rw [← zpow_add₀ two_ne]
        congr 1
        simp only [guess]
        ring
      _ ≤ num := num_lower
  have scaled_pos : (0 : ℚ) < (scale 2 guess num den).2 := by
    exact_mod_cast scale_den_pos (by norm_num) guess num den_pos
  have ratio := scale_ratio 2 guess num den
  have test : (scale 2 guess num den).2 ≤ (scale 2 guess num den).1 ↔
      (2 : ℚ) ^ guess ≤ num / den := by
    rw [← Nat.cast_le (α := ℚ), ← one_le_div scaled_pos, ratio, one_le_div (by positivity)]
    rfl
  rw [floorLog2]
  change (if (scale 2 guess num den).2 ≤ (scale 2 guess num den).1 then guess else guess - 1) = _
  split
  · rename_i reached
    exact eq_log_of_bounds (test.mp reached) upper
  · rename_i missed
    have below : (num : ℚ) / den < 2 ^ (guess - 1 + 1) := by
      rw [sub_add_cancel]
      exact lt_of_not_ge fun reached => missed (test.mpr reached)
    exact eq_log_of_bounds lower below

/-! ### Rounding an exact value -/

theorem roundHalfEven_mul {n den : Nat} (den_pos : 0 < den) :
    roundHalfEven (n * den) den = n := by
  simp [roundHalfEven, Nat.mul_div_cancel n den_pos, den_pos]

theorem value_pos (positive : 0 < bits) : 0 < value bits :=
  mul_pos (by exact_mod_cast significand_pos positive) (by positivity)

theorem log_value (positive : 0 < bits) :
    Int.log 2 (value bits) = (significand bits).log2 + exponent bits := by
  obtain ⟨lower, upper⟩ := log2_bounds (significand_pos positive)
  have two_ne : (2 : ℚ) ≠ 0 := by norm_num
  refine (eq_log_of_bounds ?_ ?_).symm
  · rw [zpow_add₀ two_ne, value]
    gcongr
  · rw [add_right_comm, zpow_add₀ two_ne, value]
    gcongr

/-- A ratio that is the value of a finite magnitude is rounded to this magnitude. -/
theorem nearest_of_value {num den : Nat} (den_pos : 0 < den) (finite : bits < infinity)
    (exact : (num : ℚ) / den = value bits) : nearest num den = bits := by
  rcases Nat.eq_zero_or_pos bits with rfl | positive
  · have zero : num = 0 := by
      have : (den : ℚ) ≠ 0 := by exact_mod_cast den_pos.ne'
      simpa [value, significand, this] using exact
    rw [nearest, if_pos zero]
  · have num_ne : num ≠ 0 := by
      rintro rfl
      have := value_pos positive
      simp [← exact] at this
    have unit : max (floorLog2 num den - 52) (-1074) = exponent bits := by
      rw [floorLog2_eq_log (Nat.pos_of_ne_zero num_ne) den_pos, exact, log_value positive,
        max_log2_significand positive]
    have scaled_pos := scale_den_pos two_pos (exponent bits) num den_pos
    have scaled : (scale 2 (exponent bits) num den).1 =
        significand bits * (scale 2 (exponent bits) num den).2 := by
      have ratio := scale_ratio 2 (exponent bits) num den
      rw [exact, value, mul_div_assoc, Nat.cast_ofNat, div_self (by positivity), mul_one,
        div_eq_iff (by exact_mod_cast scaled_pos.ne')] at ratio
      exact_mod_cast ratio
    simp only [nearest, if_neg num_ne, unit, scaled, roundHalfEven_mul scaled_pos,
      place_add_significand]
    exact Nat.min_eq_right finite.le

/-! ### Reading an exact decimal -/

theorem value_lt (finite : bits < infinity) : value bits < 2 ^ 1024 :=
  calc value bits < (2 * exponentPlace : Nat) * 2 ^ exponent bits := by
        unfold value
        gcongr
        exact significand_lt bits
    _ ≤ (2 * exponentPlace : Nat) * 2 ^ (971 : Int) := by
        gcongr
        · norm_num
        · exact exponent_le finite
    _ = 2 ^ 1024 := by
        have place : ((2 * exponentPlace : Nat) : ℚ) = 2 ^ (53 : Int) := by
          norm_num [exponentPlace]
        rw [place, ← zpow_add₀ two_ne_zero]
        rfl

theorem le_value (positive : 0 < bits) : 2 ^ (-1074 : Int) ≤ value bits :=
  calc (2 : ℚ) ^ (-1074 : Int) ≤ 2 ^ exponent bits := by
        gcongr
        · norm_num
        · exact le_exponent bits
    _ ≤ value bits := by
        have one_le : (1 : ℚ) ≤ significand bits := by exact_mod_cast significand_pos positive
        exact le_mul_of_one_le_left (by positivity) one_le

theorem eq_zero_of_value (zero : value bits = 0) : bits = 0 :=
  Nat.eq_zero_of_not_pos fun positive => (value_pos positive).ne' zero

/-- A power of ten beyond the first 400 exceeds every finite value. -/
theorem power_le_of_value {coefficient k : Nat} (positive : 0 < coefficient)
    (finite : bits < infinity) (exact : (coefficient : ℚ) * 10 ^ k = value bits) : k ≤ 400 := by
  by_contra large
  have one_le : (1 : ℚ) ≤ coefficient := by exact_mod_cast positive
  have huge : (2 : ℚ) ^ 1024 ≤ value bits :=
    calc (2 : ℚ) ^ 1024 ≤ 2 ^ (3 * 401) := pow_le_pow_right₀ (by norm_num) (by norm_num)
      _ = 8 ^ 401 := by rw [pow_mul]; norm_num
      _ ≤ 10 ^ 401 := by gcongr; norm_num
      _ ≤ 10 ^ k := pow_le_pow_right₀ (by norm_num) (Nat.lt_of_not_le large)
      _ ≤ coefficient * 10 ^ k := le_mul_of_one_le_left (by positivity) one_le
      _ = value bits := exact
  exact absurd (value_lt finite) (not_lt.mpr huge)

/-- A coefficient far too small for its power of ten is below every positive value. -/
theorem le_log2_of_value {coefficient k : Nat} (positive : 0 < coefficient) (bits_pos : 0 < bits)
    (exact : (coefficient : ℚ) * 10 ^ Int.negSucc k = value bits) :
    3 * (k + 1) ≤ coefficient.log2 + 1100 := by
  have lower : (2 : ℚ) ^ (-1074 : Int) * 10 ^ (k + 1) ≤ coefficient := by
    rw [← le_mul_inv_iff₀ (by positivity), ← zpow_negSucc, exact]
    exact le_value bits_pos
  have octal : (2 : ℚ) ^ (3 * (k + 1) : Int) ≤ 10 ^ (k + 1) := by
    rw [zpow_mul, ← Nat.cast_succ, zpow_natCast]
    gcongr
    norm_num
  have powers : (2 : ℚ) ^ (-1074 + 3 * (k + 1) : Int) < 2 ^ ((coefficient.log2 : Int) + 1) :=
    calc (2 : ℚ) ^ (-1074 + 3 * (k + 1) : Int)
        = 2 ^ (-1074 : Int) * 2 ^ (3 * (k + 1) : Int) := zpow_add₀ two_ne_zero _ _
      _ ≤ 2 ^ (-1074 : Int) * 10 ^ (k + 1) := by gcongr
      _ ≤ coefficient := lower
      _ < 2 ^ ((coefficient.log2 : Int) + 1) := (log2_bounds positive).2
  have exponents := (zpow_lt_zpow_iff_right₀ (by norm_num)).mp powers
  omega

theorem nearest_le_infinity (num den : Nat) : nearest num den ≤ infinity := by
  unfold nearest
  split
  · exact Nat.zero_le _
  · exact Nat.min_le_left ..

/-- What is read is at most infinite. -/
theorem ofDecimal_le_infinity (coefficient : Nat) (power : Int) :
    ofDecimal coefficient power ≤ infinity := by
  unfold ofDecimal
  split
  · split
    · exact Nat.zero_le _
    · split
      · exact Nat.le_refl _
      · exact nearest_le_infinity ..
  · split
    · exact Nat.zero_le _
    · exact nearest_le_infinity ..

/-- A decimal that is the value of a finite magnitude is read as this magnitude. -/
theorem ofDecimal_of_value {coefficient : Nat} {power : Int} (finite : bits < infinity)
    (exact : (coefficient : ℚ) * 10 ^ power = value bits) : ofDecimal coefficient power = bits := by
  rcases Nat.eq_zero_or_pos coefficient with rfl | positive
  · rw [Nat.cast_zero, zero_mul] at exact
    cases eq_zero_of_value exact.symm
    cases power <;> simp [ofDecimal, nearest]
  · have bits_pos : 0 < bits := by
      refine Nat.pos_of_ne_zero fun zero => ?_
      have nonzero : value bits ≠ 0 := exact ▸ by positivity
      exact nonzero (by simp [zero, value, significand])
    cases power with
    | ofNat k =>
        have inRange := power_le_of_value positive finite exact
        simp only [ofDecimal, if_neg positive.ne', if_neg (Nat.not_lt.mpr inRange)]
        exact nearest_of_value one_pos finite (by simpa using exact)
    | negSucc k =>
        have inRange := le_log2_of_value positive bits_pos exact
        simp only [ofDecimal, if_neg (Nat.not_lt.mpr inRange)]
        refine nearest_of_value (Nat.pow_pos (by norm_num)) finite ?_
        rw [← exact, zpow_negSucc]
        simp [div_eq_mul_inv]

end Calculator.Binary64

namespace Calculator.Decimal

open Binary64

variable {bits : Nat}

theorem expansion_value (bits : Nat) :
    ((expansion bits).1 : ℚ) * 10 ^ (expansion bits).2 = value bits := by
  rw [expansion, value]
  cases exponent bits with
  | ofNat k => simp
  | negSucc k =>
      have split : (10 : ℚ) ^ (k + 1) = 5 ^ (k + 1) * 2 ^ (k + 1) := by
        rw [← mul_pow]
        norm_num
      have power : -((k + 1 : Nat) : Int) = Int.negSucc k := rfl
      simp only [power, zpow_negSucc, split, Nat.cast_mul, Nat.pow_eq, Nat.cast_pow, Nat.cast_ofNat]
      field_simp

theorem readsBack_of_gridPoint? {power : Int} {decimal : Nat × Int}
    (found : gridPoint? bits power = some decimal) : readsBack bits decimal = true := by
  rw [gridPoint?] at found
  dsimp only at found
  split at found
  · rename_i lower upper
    cases found
    split <;> assumption
  · rename_i lower upper
    cases found
    assumption
  · rename_i lower upper
    cases found
    assumption
  · cases found

/-- The shortest decimal of a finite magnitude reads back as it. -/
theorem ofDecimal_shortest (finite : bits < infinity) :
    ofDecimal (shortest bits).1 (shortest bits).2 = bits := by
  rw [shortest]
  split
  · rename_i zero
    rw [zero]
    rfl
  · dsimp only
    cases hit : (List.range 17).findSome? fun (i : Nat) =>
        gridPoint? bits (floorLog10 (ratio bits).1 (ratio bits).2 - i) with
    | none => exact ofDecimal_of_value finite (expansion_value bits)
    | some decimal =>
        obtain ⟨i, -, found⟩ := List.exists_of_findSome?_eq_some hit
        exact eq_of_beq (readsBack_of_gridPoint? found)

end Calculator.Decimal
