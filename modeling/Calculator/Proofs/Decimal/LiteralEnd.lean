import Calculator.Decimal.Literal
import Mathlib.Data.List.Basic
import Mathlib.Data.List.TakeWhile

/-!
How a literal ends: a decimal number ends in a digit or a point, so among the literals
only the words for what is not finite end in a letter.
-/

namespace Calculator.Decimal

/-- A digit is no letter. -/
theorem isAlpha_of_isDigit {c : Char} (digit : c.isDigit = true) : c.isAlpha = false := by
  have bound : c.val.toNat ≤ 57 := by
    simp only [Char.isDigit, Bool.and_eq_true, decide_eq_true_eq, UInt32.le_iff_toNat_le] at digit
    exact digit.2
  have below : ∀ letter : Char, 57 < letter.val.toNat → ¬ letter.val ≤ c.val := by
    intro letter above atMost
    exact absurd (bound.trans_lt above) (Nat.not_lt.mpr (UInt32.le_iff_toNat_le.mp atMost))
  have noUpper : ¬ ('A'.val ≤ c.val ∧ c.val ≤ 'Z'.val) :=
    fun inside => below 'A' (by decide) inside.1
  have noLower : ¬ 'a'.val ≤ c.val := below 'a' (by decide)
  change (decide ('A'.val ≤ c.val ∧ c.val ≤ 'Z'.val) ||
    (decide ('a'.val ≤ c.val) && decide (c.val ≤ 'z'.val))) = false
  rw [decide_eq_false noUpper, decide_eq_false noLower]
  rfl

/-- What stands behind an optional sign is the end of the text. -/
theorem readSign_suffix (text : List Char) : ∃ sign, text = sign ++ (readSign text).2 := by
  unfold readSign
  split
  · exact ⟨['-'], rfl⟩
  · exact ⟨['+'], rfl⟩
  · exact ⟨[], rfl⟩

/-- An exponent ends in a digit. -/
theorem isDigit_of_readExponent? {text : List Char} {exponent : Int}
    (read : readExponent? text = some exponent) :
    ∀ last, text.getLast? = some last → last.isDigit = true := by
  intro last atEnd
  cases text with
  | nil => cases atEnd
  | cons mark rest =>
      rw [readExponent?] at read
      split at read
      · obtain ⟨sign, split⟩ := readSign_suffix rest
        dsimp only at read
        split at read
        · rename_i digits
          obtain ⟨nonempty, allDigits⟩ := digits
          rw [split, ← List.cons_append, List.getLast?_append_of_ne_nil _ nonempty] at atEnd
          exact List.all_eq_true.mp allDigits last (List.mem_of_getLast? atEnd)
        · cases read
      · cases read

/-- A decimal number without its sign ends in a digit or a point. -/
theorem end_of_readDecimal? {text : List Char} {magnitude : Magnitude}
    (read : readDecimal? text = some magnitude) :
    ∀ last, text.getLast? = some last → last.isDigit = true ∨ last = '.' := by
  intro last atEnd
  have whole : text.takeWhile Char.isDigit ++ text.dropWhile Char.isDigit = text :=
    List.takeWhile_append_dropWhile
  -- the digits and the point in front of the exponent
  have parts : ∃ front, text = front ++ (readFraction (text.dropWhile Char.isDigit)).2 ∧
      ∀ c ∈ front, c.isDigit = true ∨ c = '.' := by
    have digits : ∀ rest : List Char, ∀ c ∈ rest.takeWhile Char.isDigit, c.isDigit = true :=
      fun rest c mem => List.mem_takeWhile_imp mem
    unfold readFraction
    split
    · rename_i rest split
      refine ⟨text.takeWhile Char.isDigit ++ '.' :: rest.takeWhile Char.isDigit, ?_, ?_⟩
      · rw [List.append_assoc, List.cons_append, List.takeWhile_append_dropWhile, ← split, whole]
      · intro c mem
        rcases List.mem_append.mp mem with inWhole | behind
        · exact .inl (digits text c inWhole)
        · rcases List.mem_cons.mp behind with point | inFraction
          · exact .inr point
          · exact .inl (digits rest c inFraction)
    · exact ⟨text.takeWhile Char.isDigit, whole.symm, fun c mem => .inl (digits text c mem)⟩
  obtain ⟨front, split, inFront⟩ := parts
  rw [readDecimal?] at read
  dsimp only at read
  split at read
  · cases read
  · obtain ⟨exponent, readTail, -⟩ := Option.map_eq_some_iff.mp read
    by_cases noTail : (readFraction (text.dropWhile Char.isDigit)).2 = []
    · rw [noTail, List.append_nil] at split
      rw [split] at atEnd
      exact inFront last (List.mem_of_getLast? atEnd)
    · rw [split, List.getLast?_append_of_ne_nil _ noTail] at atEnd
      exact .inl (isDigit_of_readExponent? readTail last atEnd)

/-- A decimal literal does not end in a letter. -/
theorem not_isAlpha_of_decimal {text : List Char} {literal : Literal} {coefficient : Nat}
    {exponent : Int} (read : Literal.read? text = some literal)
    (decimal : literal.magnitude = .decimal coefficient exponent) :
    ∀ last, text.getLast? = some last → last.isAlpha = false := by
  intro last atEnd
  obtain ⟨sign, split⟩ := readSign_suffix text
  rw [Literal.read?] at read
  dsimp only at read
  obtain ⟨magnitude, readBody, rfl⟩ := Option.map_eq_some_iff.mp read
  obtain rfl : magnitude = .decimal coefficient exponent := decimal
  cases digits : readDecimal? (readSign text).2 with
  | none =>
      rw [digits] at readBody
      simp only [Option.orElse_none, readWord?] at readBody
      split at readBody
      · cases readBody
      · split at readBody <;> cases readBody
  | some magnitude =>
      have nonempty : (readSign text).2 ≠ [] := by
        intro empty
        rw [empty] at digits
        cases digits
      rw [split, List.getLast?_append_of_ne_nil _ nonempty] at atEnd
      rcases end_of_readDecimal? digits last atEnd with digit | rfl
      · exact isAlpha_of_isDigit digit
      · rfl

end Calculator.Decimal
