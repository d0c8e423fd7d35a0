import Calculator.Number.Double
import Calculator.Proofs.Decimal.ExactReading
import Mathlib

/-!
Numbers by their sign and magnitude.

Every number but one is `ofMagnitude` of a sign and of bits up to those of infinity, and the
one that is left is `notANumber` (`eq_notANumber_or`). For numbers in this form the last part
says what their operations give, each time from what the model of `Float` does to the `parts`
of a number: signs go their own way, and a magnitude that is multiplied by one, or added to
zero, is not rounded.
-/

namespace Calculator.Double

open Binary64
open Float.Model (Format UnpackedFloat)
open Float.Model.UnpackedFloat (Sign packComponents unpackSign)

/-! ### The bits of a number -/

theorem magnitude_bound {bits : Nat} (bound : bits ≤ Binary64.infinity) : bits < signPlace :=
  Nat.lt_of_le_of_lt bound (by decide)

def signOf (negative : Bool) : Sign :=
  if negative then .negative else .positive

/-- The bits of a sign and a magnitude. -/
def pattern (sign : Sign) (bits : Nat) : BitVec 64 :=
  packComponents Format.binary64 sign (BitVec.ofNat 11 (bits / exponentPlace))
    (BitVec.ofNat 52 (bits % exponentPlace))

theorem toNat_packComponents (sign : Sign) (exponent : BitVec 11) (mantissa : BitVec 52) :
    (packComponents Format.binary64 sign exponent mantissa).toNat =
      sign.toBitVec.toNat * signPlace + exponent.toNat * exponentPlace + mantissa.toNat := by
  rw [packComponents, BitVec.toNat_append, BitVec.toNat_append,
    ← Nat.shiftLeft_add_eq_or_of_lt mantissa.isLt, ← Nat.shiftLeft_add_eq_or_of_lt exponent.isLt,
    Nat.shiftLeft_eq, Nat.shiftLeft_eq, signPlace, exponentPlace]
  omega

theorem toNat_pattern {bits : Nat} (sign : Sign) (bound : bits < signPlace) :
    (pattern sign bits).toNat = sign.toBitVec.toNat * signPlace + bits := by
  unfold signPlace at bound
  rw [pattern, toNat_packComponents, BitVec.toNat_ofNat, BitVec.toNat_ofNat, exponentPlace]
  omega

theorem toNat_exponentField {bits : Nat} (bound : bits < signPlace) :
    (BitVec.ofNat 11 (bits / exponentPlace)).toNat = bits / exponentPlace := by
  rw [BitVec.toNat_ofNat]
  unfold signPlace exponentPlace at *
  omega

theorem toNat_mantissaField (bits : Nat) :
    (BitVec.ofNat 52 (bits % exponentPlace)).toNat = bits % exponentPlace := by
  rw [BitVec.toNat_ofNat]
  exact Nat.mod_eq_of_lt (Nat.mod_lt _ (by decide))

theorem exponentField_eq_neg_one_iff {bits : Nat} (bound : bits < signPlace) :
    BitVec.ofNat 11 (bits / exponentPlace) = -1#11 ↔ bits / exponentPlace = 2047 := by
  rw [← BitVec.toNat_inj, toNat_exponentField bound]
  rfl

theorem mantissaField_eq_zero_iff (bits : Nat) :
    BitVec.ofNat 52 (bits % exponentPlace) = 0#52 ↔ bits % exponentPlace = 0 := by
  rw [← BitVec.toNat_inj, toNat_mantissaField]
  rfl

/-- The bits of what is not a number are those above infinity. -/
theorem isNaNBits_pattern {bits : Nat} (sign : Sign) (bound : bits < signPlace) :
    @UnpackedFloat.isNaNBits Format.binary64 (pattern sign bits) =
      decide (Binary64.infinity < bits) := by
  simp only [UnpackedFloat.isNaNBits, pattern,
    UnpackedFloat.unpackExponent_packComponents, UnpackedFloat.unpackMantissa_packComponents]
  rw [decide_eq_decide]
  refine (and_congr (exponentField_eq_neg_one_iff bound)
    (not_congr (mantissaField_eq_zero_iff bits))).trans ?_
  unfold signPlace Binary64.infinity exponentPlace at *
  omega

theorem unpackSign_pattern (sign : Sign) (bits : Nat) :
    Sign.ofBitVec (@unpackSign Format.binary64 (pattern sign bits)) = sign := by
  rw [pattern, UnpackedFloat.unpackSign_packComponents, Sign.ofBitVec_toBitVec]

/-! ### Taking a number apart -/

/-- A sign and a magnitude, as the model of `Float` takes a number apart. -/
def parts (sign : Sign) (bits : Nat) : UnpackedFloat :=
  if Binary64.infinity < bits then .notANumber
  else if bits = Binary64.infinity then .infinity sign
  else if positive : 0 < bits then
    .finite sign (significand bits) (exponent bits) (significand_pos positive)
  else .zero sign

theorem parts_finite {bits : Nat} (sign : Sign) (positive : 0 < bits)
    (finite : bits < Binary64.infinity) : parts sign bits =
      .finite sign (significand bits) (exponent bits) (significand_pos positive) := by
  rw [parts, if_neg (by omega), if_neg (by omega), dif_pos positive]

theorem parts_notANumber {bits : Nat} (sign : Sign) (above : Binary64.infinity < bits) :
    parts sign bits = .notANumber :=
  if_pos above

theorem parts_infinity (sign : Sign) : parts sign Binary64.infinity = .infinity sign := by
  rw [parts, if_neg (Nat.lt_irrefl _), if_pos rfl]

theorem parts_zero (sign : Sign) : parts sign 0 = .zero sign := by
  rw [parts, if_neg (Nat.not_lt_zero _), if_neg (by decide), dif_neg (Nat.lt_irrefl _)]

/-- The model finds the sign and the magnitude in the bits. -/
theorem unpack_pattern {bits : Nat} (sign : Sign) (bound : bits < signPlace) :
    UnpackedFloat.unpack Format.binary64 (pattern sign bits) = parts sign bits := by
  have exponentField := toNat_exponentField bound
  have largest := exponentField_eq_neg_one_iff bound
  have least : BitVec.ofNat 11 (bits / exponentPlace) = 0#11 ↔ bits / exponentPlace = 0 := by
    rw [← BitVec.toNat_inj, exponentField]
    rfl
  have mantissaField := toNat_mantissaField bits
  have noMantissa := mantissaField_eq_zero_iff bits
  have leading : (1#1 ++ BitVec.ofNat 52 (bits % exponentPlace)).toNat =
      exponentPlace + bits % exponentPlace := by
    rw [BitVec.toNat_append, ← Nat.shiftLeft_add_eq_or_of_lt (BitVec.isLt _), mantissaField]
    rfl
  have bias : (Format.binary64.exponentBias : Int) + (52 : Nat) = 1075 := rfl
  have whole := Nat.div_add_mod bits exponentPlace
  have atSign := unpackSign_pattern sign bits
  unfold UnpackedFloat.unpack
  dsimp only
  rw [atSign]
  simp only [pattern, UnpackedFloat.unpackExponent_packComponents,
    UnpackedFloat.unpackMantissa_packComponents, exponentField, largest, least,
    mantissaField, noMantissa, leading, bias]
  split
  · rename_i atLargest
    rw [atLargest] at whole
    split
    · rename_i zero
      obtain rfl : bits = Binary64.infinity := by
        rw [zero] at whole
        exact whole.symm
      exact (parts_infinity sign).symm
    · rename_i nonzero
      have above : Binary64.infinity < bits := by
        unfold Binary64.infinity
        omega
      exact (parts_notANumber sign above).symm
  · rename_i notLargest
    have finite : bits < Binary64.infinity := by
      unfold Binary64.infinity exponentPlace at *
      omega
    split
    · rename_i subnormal
      rw [subnormal] at whole
      split
      · rename_i zero
        obtain rfl : bits = 0 := by omega
        exact (parts_zero sign).symm
      · rename_i nonzero
        have small : bits % exponentPlace = bits := by omega
        rw [parts_finite sign (by omega) finite]
        simp [significand, exponent, subnormal, small]
    · rename_i normal
      have positive : 0 < bits := Nat.pos_of_ne_zero fun zero => normal (by rw [zero, Nat.zero_div])
      rw [parts_finite sign positive finite]
      simp [significand, exponent, normal]

/-- Packing a number that is a number gives its bits. -/
theorem pack_parts {bits : Nat} (sign : Sign) (bound : bits ≤ Binary64.infinity) :
    UnpackedFloat.pack Format.binary64 (parts sign bits) = pattern sign bits := by
  have below := magnitude_bound bound
  have isNumber : @UnpackedFloat.isNaNBits Format.binary64 (pattern sign bits) = false := by
    rw [isNaNBits_pattern sign below, decide_eq_false (Nat.not_lt.mpr bound)]
  rw [← unpack_pattern sign below, UnpackedFloat.pack_unpack]
  simp [isNumber]

/-! ### Numbers and their sign and magnitude -/

theorem toNat_sign (negative : Bool) : (signOf negative).toBitVec.toNat = negative.toNat := by
  cases negative <;> rfl

theorem toBitVec_ofMagnitude {bits : Nat} (negative : Bool) (bound : bits < signPlace) :
    (UInt64.ofNat ((if negative then signPlace else 0) + bits)).toBitVec =
      pattern (signOf negative) bits := by
  apply BitVec.eq_of_toNat_eq
  rw [toNat_pattern _ bound, toNat_sign]
  change (UInt64.ofNat _).toNat = _
  rw [UInt64.toNat_ofNat']
  unfold signPlace at *
  cases negative <;> (simp; omega)

/-- A number of a sign and a magnitude, as the model makes it from its parts. -/
theorem ofMagnitude_eq {bits : Nat} (negative : Bool) (bound : bits < signPlace) :
    ofMagnitude negative bits = .ofModel (.pack (parts (signOf negative) bits)) := by
  rw [ofMagnitude, Float.ofBits, Float.Model.ofBits, toBitVec_ofMagnitude negative bound,
    unpack_pattern _ bound]

theorem unpack_ofMagnitude {bits : Nat} (negative : Bool) (bound : bits ≤ Binary64.infinity) :
    (ofMagnitude negative bits).toModel.unpack = parts (signOf negative) bits := by
  rw [ofMagnitude_eq negative (magnitude_bound bound), Float.Model.unpack, Float.Model.pack]
  change UnpackedFloat.unpack Format.binary64 (UnpackedFloat.pack _ _) = _
  rw [pack_parts _ bound, unpack_pattern _ (magnitude_bound bound)]

theorem toNat_toBits_ofMagnitude {bits : Nat} (negative : Bool)
    (bound : bits ≤ Binary64.infinity) :
    (ofMagnitude negative bits).toBits.toNat = negative.toNat * signPlace + bits := by
  rw [ofMagnitude_eq negative (magnitude_bound bound)]
  change (UnpackedFloat.pack _ _).toNat = _
  rw [pack_parts _ bound, toNat_pattern _ (magnitude_bound bound), toNat_sign]

@[simp] theorem magnitude_ofMagnitude {bits : Nat} (negative : Bool)
    (bound : bits ≤ Binary64.infinity) : magnitude (ofMagnitude negative bits) = bits := by
  rw [magnitude, toNat_toBits_ofMagnitude negative bound, Nat.mul_add_mod_self_right,
    Nat.mod_eq_of_lt (magnitude_bound bound)]

@[simp] theorem isNegative_ofMagnitude {bits : Nat} (negative : Bool)
    (bound : bits ≤ Binary64.infinity) : isNegative (ofMagnitude negative bits) = negative := by
  have below := magnitude_bound bound
  rw [isNegative, toNat_toBits_ofMagnitude negative bound]
  cases negative with
  | false => simpa using below
  | true => simp

theorem magnitude_lt (x : Float) : magnitude x < signPlace :=
  Nat.mod_lt _ (by decide)

theorem toBits_eq (x : Float) :
    UInt64.ofNat ((if isNegative x then signPlace else 0) + magnitude x) = x.toBits := by
  have bound := x.toBits.toNat_lt
  have same : (if isNegative x then signPlace else 0) + magnitude x = x.toBits.toNat := by
    unfold isNegative magnitude signPlace
    split <;> (simp at *; omega)
  rw [same, UInt64.ofNat_toNat]

theorem toBitVec_toBits (x : Float) :
    x.toBits.toBitVec = pattern (signOf (isNegative x)) (magnitude x) := by
  rw [← toBitVec_ofMagnitude _ (magnitude_lt x), toBits_eq]

/-- Only one pattern of bits is in use for what is not a number. -/
theorem toBitVec_of_isNotANumber {x : Float} (isNaN : Binary64.infinity < magnitude x) :
    x.toBits.toBitVec = UnpackedFloat.packedNaN Format.binary64 := by
  have bits := isNaNBits_pattern (signOf (isNegative x)) (magnitude_lt x)
  rw [← toBitVec_toBits, decide_eq_true isNaN] at bits
  obtain ⟨largest, mantissa⟩ := of_decide_eq_true bits
  exact x.toModel.valid.eq_packedNaN largest mantissa

/-- A number is given by its sign and its magnitude. -/
theorem ofMagnitude_magnitude (x : Float) : ofMagnitude (isNegative x) (magnitude x) = x := by
  rw [ofMagnitude, toBits_eq, Float.ofBits_toBits]

theorem eq_notANumber {x : Float} (isNaN : isNotANumber x = true) : x = notANumber := by
  rw [← Float.toBits_inj, ← UInt64.toBitVec_inj,
    toBitVec_of_isNotANumber (of_decide_eq_true isNaN)]
  rfl

/-! ### Arithmetic by sign and magnitude -/

/-- The finite numbers by their magnitudes: zero, and those with a significand. -/
theorem parts_cases {bits : Nat} (property : (Sign → UnpackedFloat) → Prop)
    (finite : bits < Binary64.infinity) (zero : property .zero)
    (nonzero : ∀ positive : 0 < bits, property fun sign => .finite sign (significand bits)
      (exponent bits) (significand_pos positive)) : property fun sign => parts sign bits := by
  rcases Nat.eq_zero_or_pos bits with rfl | positive
  · simpa only [parts_zero] using zero
  · simpa only [parts_finite _ positive finite] using nonzero positive

theorem isFinite_parts {bits : Nat} (sign : Sign) (bound : bits ≤ Binary64.infinity) :
    (parts sign bits).isFinite = decide (bits < Binary64.infinity) := by
  rcases Nat.lt_or_eq_of_le bound with finite | rfl
  · rw [decide_eq_true finite]
    exact parts_cases (fun number => (number sign).isFinite = true) finite rfl
      fun _ => rfl
  · rw [parts_infinity]
    rfl

theorem abs_parts {bits : Nat} (sign : Sign) (bound : bits ≤ Binary64.infinity) :
    (parts sign bits).abs = parts .positive bits := by
  rcases Nat.lt_or_eq_of_le bound with finite | rfl
  · exact parts_cases (fun number => (number sign).abs = number .positive) finite rfl
      fun _ => rfl
  · simp only [parts_infinity]
    rfl

/-- Adding zero changes nothing but the sign of a zero. -/
theorem zero_add_parts {bits : Nat} (sign : Sign) (positive : 0 < bits)
    (finite : bits < Binary64.infinity) :
    UnpackedFloat.add Format.binary64 (.zero .positive) (parts sign bits) = parts sign bits := by
  rw [parts_finite sign positive finite]
  rfl

theorem parts_sub_zero {bits : Nat} (sign : Sign) (positive : 0 < bits)
    (finite : bits < Binary64.infinity) :
    UnpackedFloat.sub Format.binary64 (parts sign bits) (.zero .positive) = parts sign bits := by
  rw [parts_finite sign positive finite]
  rfl

/-! ### Rounding what is exact -/

open Float.Model.UnpackedFloat (ExtendedMantissa shiftToTargetExponent roundWithAccuracy)

/-- Shifting out zeros loses nothing. -/
theorem shiftRight_exact (mantissa k : Nat) :
    (⟨mantissa * 2 ^ k, false, false⟩ : ExtendedMantissa) >>> k = ⟨mantissa, false, false⟩ := by
  induction k generalizing mantissa with
  | zero => simp [HShiftRight.hShiftRight, Nat.repeat]
  | succ k ih =>
      have last := ih (2 * mantissa)
      rw [Nat.mul_comm 2, Nat.mul_assoc, ← Nat.pow_succ'] at last
      have half : mantissa * 2 / 2 = mantissa := Nat.mul_div_cancel mantissa two_pos
      change ExtendedMantissa.shiftRightOne
        ((⟨mantissa * 2 ^ (k + 1), false, false⟩ : ExtendedMantissa) >>> k) = _
      rw [last, ExtendedMantissa.shiftRightOne]
      simp [half]

theorem log2_mul_two_pow {n : Nat} (positive : 0 < n) (k : Nat) :
    (n * 2 ^ k).log2 = n.log2 + k := by
  rw [Nat.log2_eq_iff (Nat.mul_pos positive (Nat.two_pow_pos k)).ne', Nat.pow_add,
    Nat.add_right_comm, Nat.pow_add]
  exact ⟨Nat.mul_le_mul_right _ (Nat.log2_self_le positive.ne'),
    Nat.mul_lt_mul_of_pos_right Nat.lt_log2_self (Nat.two_pow_pos k)⟩

/-- With zeros behind its significand, a number is shifted back to its parts. -/
theorem shiftToTargetExponent_exact {bits : Nat} (positive : 0 < bits) (k : Nat) :
    shiftToTargetExponent Format.binary64 (significand bits * 2 ^ k) (exponent bits - k) .exact =
      (⟨significand bits, false, false⟩, exponent bits) := by
  have target : Format.binary64.targetExponent
      (Float.Model.totalExponent (significand bits * 2 ^ k) (exponent bits - k)) =
        exponent bits := by
    have least := max_log2_significand positive
    rw [Float.Model.totalExponent, log2_mul_two_pow (significand_pos positive)]
    change max (_ - ((53 : Nat) : Int)) (-1074 : Int) = _
    push_cast
    omega
  have distance : (exponent bits - (exponent bits - k)).toNat = k := by omega
  rw [shiftToTargetExponent, target, UnpackedFloat.shiftToExponent]
  simp only [distance, ExtendedMantissa.ofMantissaAndAccuracy, shiftRight_exact]
  rw [Int.sub_add_cancel]

/-- An exact product is not changed by rounding. -/
theorem roundWithAccuracy_exact {bits : Nat} (sign : Sign) (positive : 0 < bits) (k : Nat) :
    roundWithAccuracy Format.binary64 sign (significand bits * 2 ^ k) (exponent bits - k) .exact =
      .finite sign (significand bits) (exponent bits) (significand_pos positive) := by
  have again := shiftToTargetExponent_exact positive 0
  rw [Nat.pow_zero, Nat.mul_one, Nat.cast_zero, Int.sub_zero] at again
  have rounded : (⟨significand bits, false, false⟩ : ExtendedMantissa).roundedMantissa =
    significand bits := rfl
  rw [roundWithAccuracy, shiftToTargetExponent_exact positive]
  simp only [rounded, again]
  exact dif_neg (significand_pos positive).ne'

theorem one_mul_parts {bits : Nat} (first sign : Sign) (finite : bits < Binary64.infinity) :
    UnpackedFloat.mul Format.binary64 (.finite first (2 ^ 52) (-52) (by decide)) (parts sign bits) =
      parts (first * sign) bits := by
  rcases Nat.eq_zero_or_pos bits with rfl | positive
  · simp only [parts_zero]
    rfl
  · have rounded := roundWithAccuracy_exact (first * sign) positive 52
    rw [Nat.mul_comm, Int.sub_eq_add_neg, Int.add_comm] at rounded
    rw [parts_finite _ positive finite, parts_finite _ positive finite, ← rounded]
    rfl

theorem compare_parts_zero {bits : Nat} (negative : Bool) (positive : 0 < bits)
    (finite : bits < Binary64.infinity) :
    (parts (signOf negative) bits).compare (.zero .positive) =
      some (if negative then .lt else .gt) := by
  rw [parts_finite _ positive finite]
  cases negative <;> rfl

/-! ### The operations on numbers -/

/-- Every number is of one of two kinds: it is no number, or it has a sign and a magnitude. -/
theorem eq_notANumber_or (x : Float) :
    x = notANumber ∨ ∃ negative bits, bits ≤ Binary64.infinity ∧ x = ofMagnitude negative bits := by
  rcases Nat.lt_or_ge Binary64.infinity (magnitude x) with isNaN | isNumber
  · exact .inl (eq_notANumber (decide_eq_true isNaN))
  · exact .inr ⟨isNegative x, magnitude x, isNumber, (ofMagnitude_magnitude x).symm⟩

theorem isFinite_ofMagnitude {bits : Nat} (negative : Bool) (bound : bits ≤ Binary64.infinity) :
    (ofMagnitude negative bits).isFinite = decide (bits < Binary64.infinity) := by
  rw [Float.isFinite, Float.Model.isFinite, unpack_ofMagnitude _ bound, isFinite_parts _ bound]

theorem isFinite_notANumber : notANumber.isFinite = false := rfl

theorem abs_notANumber : notANumber.abs = notANumber := rfl

/-- A finite number has a magnitude below the infinite one. -/
theorem exists_of_isFinite {x : Float} (finite : x.isFinite = true) :
    ∃ negative bits, bits < Binary64.infinity ∧ x = ofMagnitude negative bits := by
  rcases eq_notANumber_or x with rfl | ⟨negative, bits, bound, rfl⟩
  · rw [isFinite_notANumber] at finite
    cases finite
  · rw [isFinite_ofMagnitude _ bound, decide_eq_true_iff] at finite
    exact ⟨negative, bits, finite, rfl⟩

theorem abs_ofMagnitude {bits : Nat} (negative : Bool) (bound : bits ≤ Binary64.infinity) :
    (ofMagnitude negative bits).abs = ofMagnitude false bits := by
  rw [Float.abs, Float.Model.abs, unpack_ofMagnitude _ bound, abs_parts _ bound,
    ofMagnitude_eq false (magnitude_bound bound)]
  rfl

/-- Multiplying by one or minus one changes at most the sign. -/
theorem one_mul_ofMagnitude {bits : Nat} (negative : Bool) (finite : bits < Binary64.infinity) :
    Float.mul (if negative then Float.neg 1.0 else 1.0) (ofMagnitude false bits) =
      ofMagnitude negative bits := by
  have unit : (if negative then Float.neg 1.0 else 1.0).toModel.unpack =
      .finite (signOf negative) (2 ^ 52) (-52) (by decide) := by
    cases negative <;> rfl
  have signs : signOf negative * signOf false = signOf negative := by
    cases negative <;> rfl
  change Float.ofModel (.pack (UnpackedFloat.mul Format.binary64 (Float.toModel _).unpack
    (ofMagnitude false bits).toModel.unpack)) = _
  rw [unit, unpack_ofMagnitude _ finite.le, one_mul_parts _ _ finite, signs,
    ← ofMagnitude_eq negative (magnitude_bound finite.le)]

/-- Adding a number to zero does not change it. -/
theorem zero_add_ofMagnitude {bits : Nat} (negative : Bool) (positive : 0 < bits)
    (finite : bits < Binary64.infinity) :
    Float.add 0.0 (ofMagnitude negative bits) = ofMagnitude negative bits := by
  change Float.ofModel (.pack (UnpackedFloat.add Format.binary64 (.zero .positive)
    (ofMagnitude negative bits).toModel.unpack)) = _
  rw [unpack_ofMagnitude _ finite.le, zero_add_parts _ positive finite,
    ← ofMagnitude_eq negative (magnitude_bound finite.le)]

theorem sub_zero_ofMagnitude {bits : Nat} (negative : Bool) (positive : 0 < bits)
    (finite : bits < Binary64.infinity) :
    Float.sub (ofMagnitude negative bits) 0.0 = ofMagnitude negative bits := by
  change Float.ofModel (.pack (UnpackedFloat.sub Format.binary64
    (ofMagnitude negative bits).toModel.unpack (.zero .positive))) = _
  rw [unpack_ofMagnitude _ finite.le, parts_sub_zero _ positive finite,
    ← ofMagnitude_eq negative (magnitude_bound finite.le)]

/-- The numbers below zero are those with a minus sign. -/
theorem lt_zero_ofMagnitude {bits : Nat} (negative : Bool) (positive : 0 < bits)
    (finite : bits < Binary64.infinity) :
    Float.lt (ofMagnitude negative bits) 0.0 = negative := by
  change decide (((ofMagnitude negative bits).toModel.unpack.compare (.zero .positive) ==
    some .lt) = true) = _
  rw [unpack_ofMagnitude _ finite.le, compare_parts_zero _ positive finite]
  cases negative <;> rfl

/-! ### Laws of all numbers -/

theorem isNegative_abs (x : Float) : isNegative x.abs = false := by
  rcases eq_notANumber_or x with rfl | ⟨negative, bits, bound, rfl⟩
  · rw [abs_notANumber]
    rfl
  · rw [abs_ofMagnitude _ bound, isNegative_ofMagnitude _ bound]

theorem isFinite_abs (x : Float) : x.abs.isFinite = x.isFinite := by
  rcases eq_notANumber_or x with rfl | ⟨negative, bits, bound, rfl⟩
  · rw [abs_notANumber]
  · rw [abs_ofMagnitude _ bound, isFinite_ofMagnitude _ bound, isFinite_ofMagnitude _ bound]

theorem beq_self_of_isFinite {x : Float} (finite : x.isFinite = true) :
    Float.beq x x = true := by
  apply Float.beq_self_iff.mpr
  rintro rfl
  cases isFinite_notANumber.symm.trans finite

theorem isFinite_of_beq_zero {x : Float} (zero : Float.beq x 0.0 = true) :
    x.isFinite = true := by
  obtain ⟨-, -, rfl | ⟨rfl, -⟩ | ⟨rfl, -⟩⟩ := Float.beq_iff_ne_nan_and_eq.mp zero <;> rfl

/-- Only one itself compares as equal to one. -/
theorem eq_one_of_beq {x : Float} (one : Float.beq x 1.0 = true) : x = 1.0 := by
  obtain ⟨-, -, same | ⟨-, zero⟩ | ⟨-, zero⟩⟩ := Float.beq_iff_ne_nan_and_eq.mp one
  · exact same
  · exact absurd (congrArg magnitude zero) (by decide)
  · exact absurd (congrArg magnitude zero) (by decide)

/-- A number that is not zero is the sum of zero and its sign times its magnitude. -/
theorem zero_add_signed_abs {x : Float} (finite : x.isFinite = true)
    (nonzero : Float.beq x 0.0 = false) :
    Float.add 0.0 (Float.mul (if Float.lt x 0.0 then Float.neg 1.0 else 1.0) x.abs) = x := by
  obtain ⟨negative, bits, bound, rfl⟩ := exists_of_isFinite finite
  have positive : 0 < bits := by
    apply Nat.pos_of_ne_zero
    rintro rfl
    cases negative <;> cases nonzero
  rw [lt_zero_ofMagnitude _ positive bound, abs_ofMagnitude _ bound.le,
    one_mul_ofMagnitude _ bound, zero_add_ofMagnitude _ positive bound]

theorem sub_one_mul_zero_beq {x : Float} (finite : x.isFinite = true) :
    Float.beq (Float.sub x (Float.mul 1.0 0.0)) x = true := by
  obtain ⟨negative, bits, bound, rfl⟩ := exists_of_isFinite finite
  have product : Float.mul 1.0 0.0 = 0.0 := rfl
  rw [product]
  rcases Nat.eq_zero_or_pos bits with rfl | positive
  · cases negative <;> rfl
  · rw [sub_zero_ofMagnitude _ positive bound]
    exact beq_self_of_isFinite finite

end Calculator.Double
