import Calculator.Proofs.Decimal.LiteralEnd
import Calculator.Proofs.Number.SignAndMagnitude

/-!
Written numbers read back.

A number is written with digits and at most one point, behind a minus sign if it is
negative. The digits spell the shortest decimal, and reading them finds the same
coefficient and power again; so every number is read back from its text
(`read?_write`), what is not finite by its word.
-/

namespace Calculator.Decimal

/-! ### Digits -/

theorem isDigit_of_mem_digits {n : Nat} {c : Char} (mem : c ∈ digits n) : c.isDigit = true :=
  Nat.isDigit_of_mem_toDigits (by decide) (by decide) mem

theorem digitsValue_eq (text : List Char) : digitsValue text = Nat.ofDigitChars 10 text 0 := rfl

theorem digitsValue_digits (n : Nat) : digitsValue (digits n) = n :=
  Nat.ofDigitChars_ten_toDigits

/-- Zeros behind a number multiply it by powers of ten. -/
theorem digitsValue_append_zeros (text : List Char) (k : Nat) :
    digitsValue (text ++ List.replicate k '0') = 10 ^ k * digitsValue text := by
  rw [digitsValue_eq, Nat.ofDigitChars_append, Nat.ofDigitChars_replicate_zero]
  rfl

/-- Zeros in front of a number do not change it. -/
theorem digitsValue_padLeft (width : Nat) (text : List Char) :
    digitsValue (padLeft width text) = digitsValue text := by
  rw [digitsValue_eq, padLeft, Nat.ofDigitChars_append, Nat.ofDigitChars_replicate_zero]
  rfl

/-! ### Reading digits -/

/-- Only digits, at least one. -/
def IsDigits (text : List Char) : Prop :=
  text ≠ [] ∧ ∀ c ∈ text, c.isDigit = true

theorem IsDigits.append {text others : List Char} (isDigits : IsDigits text)
    (digits : ∀ c ∈ others, c.isDigit = true) : IsDigits (text ++ others) :=
  ⟨List.append_ne_nil_of_left_ne_nil isDigits.1 _,
    List.forall_mem_append.mpr ⟨isDigits.2, digits⟩⟩

theorem readSign_of_isDigit {c : Char} {rest : List Char} (digit : c.isDigit = true) :
    readSign (c :: rest) = (false, c :: rest) := by
  unfold readSign
  split
  · rename_i same
    cases same
    cases digit
  · rename_i same
    cases same
    cases digit
  · rfl

theorem readSign_of_not_mem {text : List Char} (absent : '-' ∉ text) :
    (readSign text).1 = false := by
  unfold readSign
  split
  · exact absurd List.mem_cons_self absent
  · rfl
  · rfl

theorem readDecimal?_digits {text : List Char} (isDigits : IsDigits text) :
    readDecimal? text = some (.decimal (digitsValue text) 0) := by
  have taken : text.takeWhile Char.isDigit = text := List.takeWhile_eq_self_iff.mpr isDigits.2
  have dropped : text.dropWhile Char.isDigit = [] := List.dropWhile_eq_nil_iff.mpr isDigits.2
  simp [readDecimal?, taken, dropped, readFraction, isDigits.1, readExponent?]

/-- The digits on either side of a point are read as one number. -/
theorem readDecimal?_point {whole fraction : List Char} (digits : IsDigits (whole ++ fraction)) :
    readDecimal? (whole ++ '.' :: fraction) =
      some (.decimal (digitsValue (whole ++ fraction)) (-fraction.length)) := by
  obtain ⟨isWhole, isFraction⟩ := List.forall_mem_append.mp digits.2
  have taken : (whole ++ '.' :: fraction).takeWhile Char.isDigit = whole := by
    rw [List.takeWhile_append_of_pos isWhole, List.takeWhile_cons_of_neg (by decide),
      List.append_nil]
  have dropped : (whole ++ '.' :: fraction).dropWhile Char.isDigit = '.' :: fraction := by
    rw [List.dropWhile_append_of_pos isWhole, List.dropWhile_cons_of_neg (by decide)]
  have takenFraction := List.takeWhile_eq_self_iff.mpr isFraction
  have droppedFraction := List.dropWhile_eq_nil_iff.mpr isFraction
  have some_digit : ¬ (whole = [] ∧ fraction = []) :=
    fun empty => digits.1 (List.append_eq_nil_iff.mpr empty)
  simp [readDecimal?, taken, dropped, readFraction, takenFraction, droppedFraction, some_digit,
    readExponent?]

/-! ### Reading the positional layout -/

/-- The parts of the positional layout with a point. -/
theorem positional_negSucc (coefficient k : Nat) : ∃ whole fraction,
    positional coefficient (.negSucc k) = whole ++ '.' :: fraction ∧ IsDigits whole ∧
      (∀ c ∈ fraction, c.isDigit = true) ∧ fraction.length = k + 1 ∧
        digitsValue (whole ++ fraction) = coefficient := by
  let padded := padLeft (k + 2) (digits coefficient)
  have allDigits : ∀ c ∈ padded, c.isDigit = true := by
    intro c mem
    rcases List.mem_append.mp mem with zero | digit
    · rw [List.eq_of_mem_replicate zero]
      rfl
    · exact isDigit_of_mem_digits digit
  have long : k + 2 ≤ padded.length := by
    simp only [padded, padLeft, List.length_append, List.length_replicate]
    omega
  refine ⟨padded.take (padded.length - (k + 1)), padded.drop (padded.length - (k + 1)), rfl,
    ⟨?_, fun c mem => allDigits c (List.mem_of_mem_take mem)⟩,
    fun c mem => allDigits c (List.mem_of_mem_drop mem), ?_, ?_⟩
  · rw [Ne, List.take_eq_nil_iff, not_or]
    exact ⟨by omega, fun empty => by rw [empty] at long; cases long⟩
  · rw [List.length_drop]
    omega
  · rw [List.take_append_drop, digitsValue_padLeft, digitsValue_digits]

/-- The positional layout without a point. -/
theorem positional_ofNat (coefficient k : Nat) :
    IsDigits (positional coefficient (.ofNat k)) ∧
      digitsValue (positional coefficient (.ofNat k)) = coefficient * 10 ^ k := by
  rw [positional]
  refine ⟨⟨by simp [digits, Nat.toDigits_ne_nil], ?_⟩, ?_⟩
  · intro c mem
    rcases List.mem_append.mp mem with digit | zero
    · exact isDigit_of_mem_digits digit
    · rw [List.eq_of_mem_replicate zero]
      rfl
  · rw [digitsValue_append_zeros, digitsValue_digits]
    split
    · rename_i zero
      rw [zero, Nat.mul_zero, Nat.zero_mul]
    · exact Nat.mul_comm _ _

/-- The positional layout begins with a digit and goes on with digits and a point. -/
theorem positional_eq_cons (coefficient : Nat) (power : Int) : ∃ first rest,
    positional coefficient power = first :: rest ∧ first.isDigit = true ∧
      ∀ c ∈ rest, c.isDigit = true ∨ c = '.' := by
  cases power with
  | ofNat k =>
      obtain ⟨⟨nonempty, allDigits⟩, -⟩ := positional_ofNat coefficient k
      obtain ⟨first, rest, split⟩ := List.exists_cons_of_ne_nil nonempty
      rw [split] at allDigits ⊢
      obtain ⟨digit, others⟩ := List.forall_mem_cons.mp allDigits
      exact ⟨first, rest, rfl, digit, fun c mem => .inl (others c mem)⟩
  | negSucc k =>
      obtain ⟨whole, fraction, layout, ⟨nonempty, allDigits⟩, isFraction, -, -⟩ :=
        positional_negSucc coefficient k
      obtain ⟨first, rest, rfl⟩ := List.exists_cons_of_ne_nil nonempty
      obtain ⟨digit, others⟩ := List.forall_mem_cons.mp allDigits
      refine ⟨first, rest ++ '.' :: fraction, layout, digit, fun c mem => ?_⟩
      rcases List.mem_append.mp mem with inWhole | behind
      · exact .inl (others c inWhole)
      · rcases List.mem_cons.mp behind with point | inFraction
        · exact .inr point
        · exact .inl (isFraction c inFraction)

/-- Zeros behind a coefficient say the same as its power. -/
theorem ofDecimal_mul_pow {coefficient k : Nat}
    (finite : Binary64.ofDecimal coefficient (.ofNat k) < Binary64.infinity) :
    Binary64.ofDecimal (coefficient * 10 ^ k) 0 =
      Binary64.ofDecimal coefficient (.ofNat k) := by
  rcases Nat.eq_zero_or_pos coefficient with rfl | positive
  · simp [Binary64.ofDecimal]
  · have shifted : coefficient * 10 ^ k ≠ 0 := (Nat.mul_pos positive (Nat.pow_pos (by decide))).ne'
    simp only [Binary64.ofDecimal, if_neg positive.ne'] at finite ⊢
    split at finite
    · exact absurd finite (Nat.lt_irrefl _)
    · rename_i inRange
      rw [if_neg inRange]
      change (if coefficient * 10 ^ k = 0 then _ else if 400 < 0 then _ else _) = _
      rw [if_neg shifted, if_neg (by decide)]
      simp

/-- What is read from the positional layout of a decimal that stands for a finite magnitude
stands for the same magnitude. -/
theorem readDecimal?_positional {bits coefficient : Nat} {power : Int}
    (finite : bits < Binary64.infinity) (exact : Binary64.ofDecimal coefficient power = bits) :
    ∃ c p, readDecimal? (positional coefficient power) = some (.decimal c p) ∧
      Binary64.ofDecimal c p = bits := by
  cases power with
  | ofNat k =>
      obtain ⟨isDigits, spelled⟩ := positional_ofNat coefficient k
      refine ⟨_, _, readDecimal?_digits isDigits, ?_⟩
      rw [spelled, ofDecimal_mul_pow (exact ▸ finite), exact]
  | negSucc k =>
      obtain ⟨whole, fraction, layout, isWhole, isFraction, length, spelled⟩ :=
        positional_negSucc coefficient k
      refine ⟨_, _, layout ▸ readDecimal?_point (isWhole.append isFraction), ?_⟩
      rw [spelled, length]
      exact exact

/-- A decimal is read the same way behind a minus sign. -/
theorem read?_signed {text : List Char} {magnitude : Magnitude}
    (unsigned : readSign text = (false, text)) (read : readDecimal? text = some magnitude)
    (negative : Bool) :
    Literal.read? ((if negative then ['-'] else []) ++ text) = some ⟨negative, magnitude⟩ := by
  have sign : readSign ((if negative then ['-'] else []) ++ text) = (negative, text) := by
    cases negative with
    | false => exact unsigned
    | true => rfl
  simp [Literal.read?, sign, read]

end Calculator.Decimal

namespace Calculator.Double

open Decimal

theorem write_ofMagnitude {bits : Nat} (negative : Bool) (finite : bits < Binary64.infinity) :
    write (ofMagnitude negative bits) = (if negative then ['-'] else []) ++
      positional (shortest bits).1 (shortest bits).2 := by
  rw [write, writeWith, isNotANumber, isInfinite, magnitude_ofMagnitude _ finite.le,
    isNegative_ofMagnitude _ finite.le, decide_eq_false (Nat.not_lt.mpr finite.le),
    decide_eq_false finite.ne]
  rfl

theorem write_infinity (negative : Bool) : write (ofMagnitude negative Binary64.infinity) =
    (if negative then ['-'] else []) ++ "inf".toList := by
  cases negative <;> rfl

theorem write_notANumber : write notANumber = "NaN".toList := rfl

/-- Every number is read back from its text. -/
theorem read?_write (x : Float) : read? (write x) = some x := by
  rcases eq_notANumber_or x with rfl | ⟨negative, bits, bound, rfl⟩
  · rw [write_notANumber]
    rfl
  · rcases Nat.lt_or_eq_of_le bound with finite | rfl
    · obtain ⟨coefficient, power, read, exact⟩ :=
        readDecimal?_positional finite (ofDecimal_shortest finite)
      obtain ⟨first, rest, layout, digit, -⟩ :=
        positional_eq_cons (shortest bits).1 (shortest bits).2
      rw [read?, write_ofMagnitude negative finite,
        read?_signed (layout ▸ readSign_of_isDigit digit) read negative]
      simp only [Option.map_some, ofLiteral, exact]
    · rw [write_infinity]
      cases negative <;> rfl

/-- The characters of a number's text. Only a negative number has a minus sign. -/
theorem mem_write {x : Float} {c : Char} (mem : c ∈ write x) :
    c.isDigit = true ∨ c = '.' ∨ c.isAlpha = true ∨ c = '-' ∧ isNegative x = true := by
  rcases eq_notANumber_or x with rfl | ⟨negative, bits, bound, rfl⟩
  · rw [write_notANumber] at mem
    have letters : "NaN".toList.all Char.isAlpha = true := rfl
    exact .inr (.inr (.inl (List.all_eq_true.mp letters c mem)))
  · have minus : c ∈ (if negative then ['-'] else []) → c = '-' ∧ negative = true := by
      cases negative <;> simp
    rw [isNegative_ofMagnitude negative bound]
    rcases Nat.lt_or_eq_of_le bound with finite | rfl
    · rw [write_ofMagnitude negative finite] at mem
      obtain ⟨first, rest, layout, digit, others⟩ :=
        positional_eq_cons (shortest bits).1 (shortest bits).2
      rcases List.mem_append.mp mem with sign | behind
      · exact .inr (.inr (.inr (minus sign)))
      · rw [layout] at behind
        rcases List.mem_cons.mp behind with rfl | inRest
        · exact .inl digit
        · exact (others c inRest).imp_right .inl
    · rw [write_infinity] at mem
      have letters : "inf".toList.all Char.isAlpha = true := rfl
      rcases List.mem_append.mp mem with sign | behind
      · exact .inr (.inr (.inr (minus sign)))
      · exact .inr (.inr (.inl (List.all_eq_true.mp letters c behind)))

theorem isNegative_ofLiteral {literal : Literal} (unsigned : literal.negative = false) :
    isNegative (ofLiteral literal) = false := by
  obtain ⟨negative, magnitude⟩ := literal
  cases unsigned
  cases magnitude with
  | notANumber => rfl
  | infinite => rfl
  | decimal coefficient exponent =>
      exact isNegative_ofMagnitude _ (Binary64.ofDecimal_le_infinity ..)

/-- A text without a minus sign is not read as a negative number. -/
theorem isNegative_of_read? {text : List Char} {x : Float} (read : read? text = some x)
    (absent : '-' ∉ text) : isNegative x = false := by
  obtain ⟨literal, isLiteral, rfl⟩ := Option.map_eq_some_iff.mp read
  have unsigned : literal.negative = false := by
    obtain ⟨magnitude, -, rfl⟩ := Option.map_eq_some_iff.mp isLiteral
    exact readSign_of_not_mem absent
  exact isNegative_ofLiteral unsigned

theorem write_ne_nil (x : Float) : write x ≠ [] := by
  intro empty
  have read := read?_write x
  rw [empty] at read
  cases read

end Calculator.Double
