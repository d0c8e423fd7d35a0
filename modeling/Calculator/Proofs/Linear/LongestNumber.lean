import Calculator.Linear.MatrixLiteral
import Calculator.Proofs.Decimal.PlainNumber

/-!
The longest number at the start of a text.

A literal is read number by number, and each number is as long as possible. `digitRun` scans
such a number to its end without looking back: what it takes is a start of every continuation,
so no longer start of the text is a number (`isLongestNumber_iff`).
-/

namespace Calculator.Linear

open Decimal

/-! ### Runs of digits -/

/-- Digits with at most one point, or digits alone behind a point. -/
def IsDigitRun (behindPoint : Bool) (text : List Char) : Prop :=
  (∀ c ∈ text, c.isDigit = true ∨ c = '.') ∧ text.count '.' ≤ if behindPoint then 0 else 1

theorem isDigitRun_nil (behindPoint : Bool) : IsDigitRun behindPoint [] :=
  ⟨List.forall_mem_nil _, Nat.zero_le _⟩

/-- A run goes on with a digit, or with a point that is its first one. -/
theorem isDigitRun_cons {behindPoint : Bool} {c : Char} {rest : List Char} :
    IsDigitRun behindPoint (c :: rest) ↔
      (c.isDigit || (c == '.' && !behindPoint)) = true ∧
        IsDigitRun (behindPoint || c == '.') rest := by
  rw [IsDigitRun, IsDigitRun, List.forall_mem_cons]
  by_cases point : c = '.'
  · subst point
    cases behindPoint with
    | false => simp
    | true => simp [Char.isDigit]
  · cases behindPoint with
    | false => simp [point, and_assoc]
    | true => simp [point, and_assoc]

theorem isDigitRun_digitRun (behindPoint : Bool) (text : List Char) :
    IsDigitRun behindPoint (digitRun behindPoint text).1 := by
  induction text generalizing behindPoint with
  | nil => exact isDigitRun_nil behindPoint
  | cons c rest ih =>
      rw [digitRun]
      split
      · rename_i goesOn
        exact isDigitRun_cons.mpr ⟨goesOn, ih _⟩
      · exact isDigitRun_nil behindPoint

theorem digitRun_append (behindPoint : Bool) (text : List Char) :
    (digitRun behindPoint text).1 ++ (digitRun behindPoint text).2 = text := by
  induction text generalizing behindPoint with
  | nil => rfl
  | cons c rest ih =>
      rw [digitRun]
      split
      · exact congrArg (c :: ·) (ih _)
      · rfl

/-- Every run at the start of a text is a start of the one that is taken. -/
theorem IsDigitRun.prefix_digitRun {behindPoint : Bool} {front text : List Char}
    (isRun : IsDigitRun behindPoint front) (atStart : front <+: text) :
    front <+: (digitRun behindPoint text).1 := by
  induction text generalizing behindPoint front with
  | nil => exact atStart
  | cons c rest ih =>
      cases front with
      | nil => exact List.nil_prefix
      | cons d front =>
          obtain ⟨rfl, inRest⟩ := List.cons_prefix_cons.mp atStart
          obtain ⟨goesOn, isRun⟩ := isDigitRun_cons.mp isRun
          rw [digitRun, if_pos goesOn]
          exact List.cons_prefix_cons.mpr ⟨rfl, ih isRun inRest⟩

/-- A run is taken as a whole. -/
theorem IsDigitRun.digitRun_eq {behindPoint : Bool} {text : List Char}
    (isRun : IsDigitRun behindPoint text) : digitRun behindPoint text = (text, []) := by
  induction text generalizing behindPoint with
  | nil => rfl
  | cons c rest ih =>
      obtain ⟨goesOn, isRun⟩ := isDigitRun_cons.mp isRun
      rw [digitRun, if_pos goesOn, ih isRun]

/-- A run ends in front of a character that is neither a digit nor a point. -/
theorem digitRun_append_cons {stop : Char} (noDigit : stop.isDigit = false)
    (noPoint : stop ≠ '.') (behindPoint : Bool) (text behind : List Char) :
    digitRun behindPoint (text ++ stop :: behind) =
      ((digitRun behindPoint text).1, (digitRun behindPoint text).2 ++ stop :: behind) := by
  induction text generalizing behindPoint with
  | nil => simp [digitRun, noDigit, noPoint]
  | cons c rest ih =>
      rw [List.cons_append, digitRun, digitRun, ih]
      split <;> rfl

/-! ### Numbers -/

theorem isPlain_iff_isDigitRun {text : List Char} :
    IsPlain text ↔ IsDigitRun false text ∧ text.any Char.isDigit = true := by
  rw [List.any_eq_true]
  exact ⟨fun ⟨inside, points, digit⟩ => ⟨⟨inside, points⟩, digit⟩,
    fun ⟨⟨inside, points⟩, digit⟩ => ⟨inside, points, digit⟩⟩

/-- A number is a character that one can start with, and a run behind it. -/
theorem isPlainNumber_cons_iff {c : Char} {rest : List Char} :
    IsPlainNumber (c :: rest) ↔ startsNumber c = true ∧ IsDigitRun (c == '.') rest ∧
      (c :: rest).any Char.isDigit = true := by
  have unsigned : IsPlain (c :: rest) ↔ ((c.isDigit || c == '.') = true ∧
      IsDigitRun (c == '.') rest) ∧ (c :: rest).any Char.isDigit = true := by
    rw [isPlain_iff_isDigitRun, isDigitRun_cons]
    simp
  by_cases minus : c = '-'
  · subst minus
    have inRest : IsPlainNumber ('-' :: rest) ↔ IsPlain rest := by
      constructor
      · rintro ⟨negative, body, plain, split⟩
        cases negative with
        | true => exact (List.cons.inj split).2 ▸ plain
        | false =>
            obtain rfl : '-' :: rest = body := split
            cases (unsigned.mp plain).1.1
      · intro plain
        exact ⟨true, rest, plain, rfl⟩
    rw [inRest, isPlain_iff_isDigitRun]
    simp [startsNumber, Char.isDigit]
  · have plain : IsPlainNumber (c :: rest) ↔ IsPlain (c :: rest) := by
      constructor
      · rintro ⟨negative, body, plain, split⟩
        cases negative with
        | true => exact absurd (List.cons.inj split).1 minus
        | false => exact split ▸ plain
      · intro plain
        exact ⟨false, _, plain, rfl⟩
    rw [plain, unsigned, and_assoc]
    simp [startsNumber, minus]

theorem not_isPlainNumber_nil : ¬ IsPlainNumber [] := by
  rintro ⟨negative, body, plain, split⟩
  obtain ⟨c, mem, -⟩ := plain.digit
  rw [(List.append_eq_nil_iff.mp split.symm).2] at mem
  cases mem

/-- `word` is the longest number at the start of `word ++ rest`. -/
structure IsLongestNumber (word rest : List Char) : Prop where
  isNumber : IsPlainNumber word
  longest : ∀ longer, longer <+: word ++ rest → IsPlainNumber longer → longer.length ≤ word.length

/-- The longest number behind its first character is the run that is taken there. -/
theorem isLongestNumber_iff {c : Char} {front rest : List Char} :
    IsLongestNumber (c :: front) rest ↔ startsNumber c = true ∧
      (c :: front).any Char.isDigit = true ∧ digitRun (c == '.') (front ++ rest) = (front, rest) := by
  let taken := digitRun (c == '.') (front ++ rest)
  have whole : taken.1 ++ taken.2 = front ++ rest := digitRun_append _ _
  constructor
  · rintro ⟨isNumber, longest⟩
    obtain ⟨starts, isRun, digit⟩ := isPlainNumber_cons_iff.mp isNumber
    have inTaken : front <+: taken.1 := isRun.prefix_digitRun (List.prefix_append _ _)
    have takenNumber : IsPlainNumber (c :: taken.1) := by
      refine isPlainNumber_cons_iff.mpr ⟨starts, isDigitRun_digitRun _ _, ?_⟩
      obtain ⟨d, mem, digit⟩ := List.any_eq_true.mp digit
      exact List.any_eq_true.mpr
        ⟨d, (List.cons_prefix_cons.mpr ⟨rfl, inTaken⟩).subset mem, digit⟩
    have atStart : c :: taken.1 <+: c :: front ++ rest :=
      ⟨taken.2, congrArg (c :: ·) whole⟩
    have same : front = taken.1 :=
      inTaken.eq_of_length_le (Nat.le_of_succ_le_succ (longest _ atStart takenNumber))
    refine ⟨starts, digit, Prod.ext same.symm ?_⟩
    exact List.append_cancel_left ((congrArg (· ++ taken.2) same).trans whole)
  · rintro ⟨starts, digit, run⟩
    have isRun : IsDigitRun (c == '.') front := by
      have taken := isDigitRun_digitRun (c == '.') (front ++ rest)
      rwa [run] at taken
    refine ⟨isPlainNumber_cons_iff.mpr ⟨starts, isRun, digit⟩, fun longer atStart isNumber => ?_⟩
    cases longer with
    | nil => exact absurd isNumber not_isPlainNumber_nil
    | cons d longer =>
        obtain ⟨rfl, inRest⟩ := List.cons_prefix_cons.mp atStart
        have inside : longer <+: (digitRun (d == '.') (front ++ rest)).1 :=
          (isPlainNumber_cons_iff.mp isNumber).2.1.prefix_digitRun inRest
        rw [run] at inside
        exact Nat.succ_le_succ inside.length_le

/-- What is taken at the start of a text is the longest number there, if it has a digit. -/
theorem isLongestNumber_digitRun {c : Char} {rest : List Char} (starts : startsNumber c = true)
    (digit : (c :: (digitRun (c == '.') rest).1).any Char.isDigit = true) :
    IsLongestNumber (c :: (digitRun (c == '.') rest).1) (digitRun (c == '.') rest).2 :=
  isLongestNumber_iff.mpr ⟨starts, digit, by rw [digitRun_append]⟩

/-- A number is the longest one in front of what is neither a digit nor a point. -/
theorem isLongestNumber_of_stop {word rest : List Char} (isNumber : IsPlainNumber word)
    (stop : ∀ c, rest.head? = some c → c.isDigit = false ∧ c ≠ '.') :
    IsLongestNumber word rest := by
  cases word with
  | nil => exact absurd isNumber not_isPlainNumber_nil
  | cons c front =>
      obtain ⟨starts, isRun, digit⟩ := isPlainNumber_cons_iff.mp isNumber
      refine isLongestNumber_iff.mpr ⟨starts, digit, ?_⟩
      cases rest with
      | nil => rw [List.append_nil, isRun.digitRun_eq]
      | cons d rest =>
          obtain ⟨noDigit, noPoint⟩ := stop d rfl
          rw [digitRun_append_cons noDigit noPoint, isRun.digitRun_eq]
          rfl

end Calculator.Linear
