import Calculator.Proofs.Decimal.ReadBack

/-!
Plain numbers: an optional minus, and digits with at most one point, at least one digit.

They are the numbers of a matrix literal. The two main statements say that every plain number
can be read (`exists_read?_of_isPlainNumber`) and that every finite number is written as one
(`isPlainNumber_write`).
-/

namespace Calculator.Decimal

/-- Digits with at most one point in front of, among or behind them, at least one digit. -/
structure IsPlain (text : List Char) : Prop where
  inside : ∀ c ∈ text, c.isDigit = true ∨ c = '.'
  points : text.count '.' ≤ 1
  digit : ∃ c ∈ text, c.isDigit = true

/-- A plain number: an optional minus in front of digits with at most one point. -/
def IsPlainNumber (text : List Char) : Prop :=
  ∃ (negative : Bool) (body : List Char), IsPlain body ∧ text = (if negative then ['-'] else []) ++ body

theorem count_point_of_isDigit {text : List Char} (digits : ∀ c ∈ text, c.isDigit = true) :
    text.count '.' = 0 :=
  List.count_eq_zero.mpr fun point => absurd (digits _ point) (by decide)

/-- Digits, or digits on both sides of a point. -/
theorem isPlain_iff {text : List Char} : IsPlain text ↔ IsDigits text ∨
    ∃ whole fraction, text = whole ++ '.' :: fraction ∧ IsDigits (whole ++ fraction) := by
  constructor
  · rintro ⟨inside, points, c, mem, digit⟩
    by_cases point : '.' ∈ text
    · obtain ⟨whole, fraction, rfl⟩ := List.append_of_mem point
      have others : '.' ∉ whole ++ fraction := by
        rw [List.count_append, List.count_cons_self] at points
        rw [← List.count_eq_zero, List.count_append]
        omega
      have kept : ∀ d ∈ whole ++ '.' :: fraction, d = '.' ∨ d ∈ whole ++ fraction := by
        simp only [List.mem_append, List.mem_cons]
        tauto
      have digits : ∀ d ∈ whole ++ fraction, d.isDigit = true := by
        intro d inParts
        have inText : d ∈ whole ++ '.' :: fraction :=
          ((List.sublist_cons_self _ _).append_left whole).subset inParts
        exact (inside d inText).resolve_right fun same => others (same ▸ inParts)
      refine .inr ⟨whole, fraction, rfl, ?_, digits⟩
      rintro empty
      rcases kept c mem with rfl | inParts
      · cases digit
      · rw [empty] at inParts
        cases inParts
    · refine .inl ⟨List.ne_nil_of_mem mem, fun d inText => ?_⟩
      exact (inside d inText).resolve_right fun same => point (same ▸ inText)
  · rintro (⟨nonempty, digits⟩ | ⟨whole, fraction, rfl, nonempty, digits⟩)
    · obtain ⟨c, rest, rfl⟩ := List.exists_cons_of_ne_nil nonempty
      exact ⟨fun d mem => .inl (digits d mem), by rw [count_point_of_isDigit digits]; omega,
        c, List.mem_cons_self, digits c List.mem_cons_self⟩
    · obtain ⟨c, mem⟩ := List.exists_mem_of_ne_nil _ nonempty
      have none := count_point_of_isDigit digits
      rw [List.count_append] at none
      refine ⟨fun d inText => ?_, ?_, c, ?_, digits c mem⟩
      · rcases List.mem_append.mp inText with inWhole | behind
        · exact .inl (digits d (List.mem_append_left _ inWhole))
        · exact (List.mem_cons.mp behind).symm.imp_left
            fun inFraction => digits d (List.mem_append_right _ inFraction)
      · rw [List.count_append, List.count_cons_self]
        omega
      · exact ((List.sublist_cons_self _ _).append_left whole).subset mem

/-- A point is read between digits of which there is at least one, on either side. -/
theorem exists_readDecimal?_of_isPlain {text : List Char} (plain : IsPlain text) :
    ∃ magnitude, readDecimal? text = some magnitude := by
  rcases isPlain_iff.mp plain with digits | ⟨whole, fraction, rfl, digits⟩
  · exact ⟨_, readDecimal?_digits digits⟩
  · exact ⟨_, readDecimal?_point digits⟩

theorem readSign_of_isPlain {text : List Char} (plain : IsPlain text) :
    readSign text = (false, text) := by
  obtain ⟨c, rest, rfl⟩ : ∃ c rest, text = c :: rest := by
    obtain ⟨c, mem, -⟩ := plain.digit
    exact List.exists_cons_of_ne_nil (List.ne_nil_of_mem mem)
  rcases plain.inside c List.mem_cons_self with digit | rfl
  · exact readSign_of_isDigit digit
  · rfl

/-- The positional layout has no sign and no exponent. -/
theorem isPlain_positional (coefficient : Nat) (power : Int) :
    IsPlain (positional coefficient power) := by
  rw [isPlain_iff]
  cases power with
  | ofNat k => exact .inl (positional_ofNat coefficient k).1
  | negSucc k =>
      obtain ⟨whole, fraction, layout, digits, isFraction, -, -⟩ :=
        positional_negSucc coefficient k
      exact .inr ⟨whole, fraction, layout, digits.append isFraction⟩

end Calculator.Decimal

namespace Calculator.Double

open Decimal

/-- Every plain number can be read. -/
theorem exists_read?_of_isPlainNumber {text : List Char} (plain : IsPlainNumber text) :
    ∃ x, read? text = some x := by
  obtain ⟨negative, body, plain, rfl⟩ := plain
  obtain ⟨magnitude, read⟩ := exists_readDecimal?_of_isPlain plain
  exact ⟨_, congrArg (Option.map ofLiteral)
    (read?_signed (readSign_of_isPlain plain) read negative)⟩

/-- A finite number is written as a plain number. -/
theorem isPlainNumber_write {x : Float} (finite : x.isFinite = true) :
    IsPlainNumber (write x) := by
  obtain ⟨negative, bits, bound, rfl⟩ := exists_of_isFinite finite
  exact ⟨negative, _, isPlain_positional _ _, write_ofMagnitude negative bound⟩

end Calculator.Double
