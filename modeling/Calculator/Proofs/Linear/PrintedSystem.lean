import Calculator.Proofs.Linear.SystemGrammar
import Calculator.Proofs.Text.Trim
import Mathlib

/-!
Reading the text of a system.

The text of a system is read equation by equation and term by term, and every term that
was written is found again: `systemText_text` says what equations are read, and that
they are read exactly if all numbers of the system are finite.

What this asks of the numbers is collected in `ReadsBack`.
-/

namespace Calculator.Linear

/-- The characters of a sum: those of its terms, and the signs. -/
def isSumCharacter (c : Char) : Bool :=
  isTermCharacter c || c == '-' || c == '+'

/-- What the text of a system asks of its numbers. They are read back from what is written,
a magnitude is written without a sign, and putting a sign back in front of a magnitude gives
the number. -/
class ReadsBack (α : Type) [Arithmetic α] [Numeral α] : Prop where
  read?_write : ∀ x : α, Numeral.read? (Numeral.write x) = some x
  write_ne_nil : ∀ x : α, Numeral.write x ≠ []
  mem_write : ∀ (x : α), ∀ c ∈ Numeral.write x, isSumCharacter c = true
  mem_write_abs : ∀ (x : α), ∀ c ∈ Numeral.write (Arithmetic.abs x), isTermCharacter c = true
  read?_zero : Numeral.read? ['0'] = some (0 : α)
  isFinite_zero : Arithmetic.isFinite (0 : α) = true
  isFinite_one : Arithmetic.isFinite (1 : α) = true
  isFinite_abs : ∀ x : α, Arithmetic.isFinite (Arithmetic.abs x) = Arithmetic.isFinite x
  isFinite_of_beq_zero : ∀ x : α, (x == 0) = true → Arithmetic.isFinite x = true
  abs_eq_one : ∀ x : α, (Arithmetic.abs x == 1) = true → Arithmetic.abs x = 1
  beq_self : ∀ x : α, Arithmetic.isFinite x = true → (x == x) = true
  zero_beq : ∀ x : α, (x == 0) = true → (0 == x) = true
  signed_abs : ∀ x : α, Arithmetic.isFinite x = true → (x == 0) = false →
    0 + (if Arithmetic.below x 0 then -1 else 1) * Arithmetic.abs x = x
  sub_zero : ∀ x : α, Arithmetic.isFinite x = true → (x - 1 * 0 == x) = true

variable {α : Type} [Arithmetic α] [Numeral α]

/-! ### Characters -/

theorem isSumCharacter_of_isTermCharacter {c : Char} (inTerm : isTermCharacter c = true) :
    isSumCharacter c = true := by
  simp [isSumCharacter, inTerm]

/-- A character of a sum is a visible one, not a blank. -/
theorem not_isBlank_of_isSumCharacter {c : Char} (inSum : isSumCharacter c = true) :
    Text.isBlank c = false := by
  have visible : 32 < c.val.toNat ∧ c.val.toNat < 127 := by
    simp only [isSumCharacter, isTermCharacter, Char.isDigit, Char.isAlpha, Char.isUpper,
      Char.isLower, Bool.or_eq_true, Bool.and_eq_true, decide_eq_true_eq, beq_iff_eq, ge_iff_le,
      UInt32.le_iff_toNat_le] at inSum
    rcases inSum with ((((digit | rfl) | upper | lower) | rfl) | rfl)
    · exact ⟨digit.1.trans_lt' (by decide), digit.2.trans_lt (by decide)⟩
    · decide
    · exact ⟨upper.1.trans_lt' (by decide), upper.2.trans_lt (by decide)⟩
    · exact ⟨lower.1.trans_lt' (by decide), lower.2.trans_lt (by decide)⟩
    · decide
    · decide
  exact Text.isBlank_eq_false_of_bounds visible

theorem removeBlanks_of_isSumCharacter {text : List Char}
    (inSum : ∀ c ∈ text, isSumCharacter c = true) : Text.removeBlanks text = text := by
  rw [Text.removeBlanks, List.filter_eq_self]
  intro c mem
  rw [not_isBlank_of_isSumCharacter (inSum c mem)]
  rfl

/-! ### Reading one term -/

variable [ReadsBack α]

open ReadsBack

theorem readFinite?_write (x : α) :
    readFinite? (Numeral.write x) = if Arithmetic.isFinite x then some x else none := by
  rw [readFinite?, read?_write, Option.filter_some]

/-- A letter behind a magnitude is a run of characters. -/
theorem isRun_termText (coefficient : α) {unknown : Char} (letter : unknown.isAlpha = true) :
    IsRun (System.termText coefficient unknown) := by
  have inTerm : isTermCharacter unknown = true := by simp [isTermCharacter, letter]
  refine ⟨by simp [System.termText], fun c mem => ?_⟩
  rcases List.mem_append.mp mem with inNumber | atEnd
  · split at inNumber
    · cases inNumber
    · exact mem_write_abs _ c inNumber
  · rwa [List.mem_singleton.mp atEnd]

/-- The magnitude in front of a letter is read back, also where it is one and not written. -/
theorem readUnsigned?_termText (coefficient : α) {unknown : Char}
    (letter : unknown.isAlpha = true) :
    readUnsigned? (System.termText coefficient unknown) =
      if Arithmetic.isFinite coefficient then some ⟨Arithmetic.abs coefficient, some unknown⟩
      else none := by
  rw [← isFinite_abs]
  simp only [System.termText]
  split
  · rename_i one
    rw [abs_eq_one coefficient one, isFinite_one]
    simp [readUnsigned?, letter]
  · have written := write_ne_nil (Arithmetic.abs coefficient)
    simp only [readUnsigned?, List.getLast?_concat, letter, List.dropLast_concat,
      List.isEmpty_iff, written, readFinite?_write, if_true, if_false]
    split <;> rfl

/-! ### Reading a sum -/

/-- What is read from a written term: its magnitude behind its sign. -/
def writtenTerm (term : α × Char) : Term α :=
  ⟨(if Arithmetic.below term.1 0 then -1 else 1) * Arithmetic.abs term.1, some term.2⟩

/-- The terms of a sum behind the first one, without blanks. -/
def bareTerms (terms : List (α × Char)) : List Char :=
  terms.flatMap fun term =>
    (if Arithmetic.below term.1 0 then '-' else '+') :: System.termText term.1 term.2

omit [ReadsBack α] in
theorem boundary_bareTerms (terms : List (α × Char)) :
    ∀ c, (bareTerms terms).head? = some c → isTermCharacter c = false := by
  cases terms with
  | nil => simp [bareTerms]
  | cons term terms =>
      intro c atHead
      rw [bareTerms, List.flatMap_cons, List.cons_append, List.head?_cons, Option.some.injEq]
        at atHead
      rw [← atHead]
      split <;> rfl

/-- A term in front of others is read back if it is finite and the others are read back. -/
theorem readTerms?_cons {text : List Char} {first : α × Char} {others : List (α × Char)}
    (letter : first.2.isAlpha = true)
    (signed : Decimal.readSign text = (Arithmetic.below first.1 0,
      System.termText first.1 first.2 ++ bareTerms others))
    (readOthers : readTerms? (bareTerms others) =
      if others.all fun term => Arithmetic.isFinite term.1 then some (others.map writtenTerm)
      else none) :
    readTerms? text = if (first :: others).all fun term => Arithmetic.isFinite term.1 then
      some ((first :: others).map writtenTerm) else none := by
  have behindSign : (Decimal.readSign text).2 =
    System.termText first.1 first.2 ++ bareTerms others := by rw [signed]
  rw [readTerms?_run behindSign (isRun_termText first.1 letter) (boundary_bareTerms others),
    readUnsigned?_termText first.1 letter, readOthers, signed, List.all_cons]
  cases Arithmetic.isFinite first.1 with
  | false => simp
  | true =>
      cases others.all fun term => Arithmetic.isFinite term.1 with
      | false => simp
      | true => simp [Term.signed, writtenTerm]

/-- The terms behind the first one are read back. -/
theorem readTerms?_bareTerms {terms : List (α × Char)}
    (letters : ∀ term ∈ terms, term.2.isAlpha = true) :
    readTerms? (bareTerms terms) =
      if terms.all fun term => Arithmetic.isFinite term.1 then some (terms.map writtenTerm)
      else none := by
  induction terms with
  | nil =>
      rw [bareTerms, List.flatMap_nil, readTerms?, if_pos rfl]
      rfl
  | cons first others ih =>
      obtain ⟨letter, letters⟩ := List.forall_mem_cons.mp letters
      refine readTerms?_cons letter ?_ (ih letters)
      rw [bareTerms, List.flatMap_cons, List.cons_append]
      split
      · rename_i negative
        rw [negative]
        rfl
      · rename_i positive
        rw [Bool.eq_false_iff.mpr positive]
        rfl

/-- The terms read from a written sum; an empty sum is written as the number zero. -/
def writtenTerms : List (α × Char) → List (Term α)
  | [] => [⟨1 * 0, none⟩]
  | first :: others => (first :: others).map writtenTerm

theorem removeBlanks_termText (coefficient : α) {unknown : Char} (letter : unknown.isAlpha = true) :
    Text.removeBlanks (System.termText coefficient unknown) =
      System.termText coefficient unknown :=
  removeBlanks_of_isSumCharacter fun c mem =>
    isSumCharacter_of_isTermCharacter ((isRun_termText coefficient letter).2 c mem)

theorem removeBlanks_sumText {first : α × Char} {others : List (α × Char)}
    (letters : ∀ term ∈ first :: others, term.2.isAlpha = true) :
    Text.removeBlanks (System.sumText (first :: others)) =
      (if Arithmetic.below first.1 0 then ['-'] else []) ++
        (System.termText first.1 first.2 ++ bareTerms others) := by
  obtain ⟨letter, letters⟩ := List.forall_mem_cons.mp letters
  have behind : Text.removeBlanks (others.flatMap fun term =>
      (if Arithmetic.below term.1 0 then [' ', '-', ' '] else [' ', '+', ' ']) ++
        System.termText term.1 term.2) = bareTerms others := by
    rw [Text.removeBlanks, List.filter_flatMap, bareTerms]
    refine List.flatMap_congr fun term mem => ?_
    change Text.removeBlanks _ = _
    rw [Text.removeBlanks_append, removeBlanks_termText term.1 (letters term mem)]
    split <;> rfl
  rw [System.sumText, Text.removeBlanks_append, Text.removeBlanks_append, behind,
    removeBlanks_termText first.1 letter, List.append_assoc]
  split <;> rfl

/-- A written sum is read back if its coefficients are finite. -/
theorem readTerms?_sumText {terms : List (α × Char)}
    (letters : ∀ term ∈ terms, term.2.isAlpha = true) :
    readTerms? (Text.removeBlanks (System.sumText terms)) =
      if terms.all fun term => Arithmetic.isFinite term.1 then some (writtenTerms terms)
      else none := by
  cases terms with
  | nil =>
      have zero : readUnsigned? ['0'] = some (⟨0, none⟩ : Term α) := by
        simp [readUnsigned?, readFinite?, read?_zero, isFinite_zero]
      have isRun : IsRun ['0'] := ⟨List.cons_ne_nil _ _, by simp [isTermCharacter]⟩
      have read : readTerms? ['0'] = (readUnsigned? ['0']).bind fun term : Term α =>
          (readTerms? []).map (term.signed false :: ·) :=
        readTerms?_run rfl isRun (by simp)
      have nothing : readTerms? [] = some ([] : List (Term α)) := by rw [readTerms?, if_pos rfl]
      rw [zero, nothing] at read
      exact read
  | cons first others =>
      obtain ⟨letter, others_letters⟩ := List.forall_mem_cons.mp letters
      rw [removeBlanks_sumText letters]
      refine readTerms?_cons letter ?_ (readTerms?_bareTerms others_letters)
      split
      · rename_i negative
        rw [negative]
        rfl
      · rename_i positive
        obtain ⟨nonempty, inTerm⟩ := isRun_termText first.1 letter
        obtain ⟨c, rest, split⟩ := List.exists_cons_of_ne_nil nonempty
        rw [Bool.eq_false_iff.mpr positive, split]
        exact readSign_of_isTermCharacter (inTerm c (split ▸ List.mem_cons_self))

theorem mem_removeBlanks_sumText {terms : List (α × Char)}
    (letters : ∀ term ∈ terms, term.2.isAlpha = true) :
    ∀ c ∈ Text.removeBlanks (System.sumText terms), isSumCharacter c = true := by
  have inTerm : ∀ term ∈ terms, ∀ c ∈ System.termText term.1 term.2,
      isSumCharacter c = true := fun term mem c inTerm =>
    isSumCharacter_of_isTermCharacter ((isRun_termText term.1 (letters term mem)).2 c inTerm)
  cases terms with
  | nil =>
      change ∀ c ∈ ['0'], _
      simp [isSumCharacter, isTermCharacter]
  | cons first others =>
      rw [removeBlanks_sumText letters]
      obtain ⟨inFirst, inOthers⟩ := List.forall_mem_cons.mp inTerm
      intro c mem
      rcases List.mem_append.mp mem with sign | mem
      · split at sign
        · rw [List.mem_singleton.mp sign]
          rfl
        · cases sign
      · rcases List.mem_append.mp mem with mem | behind
        · exact inFirst c mem
        · obtain ⟨term, isOther, mem⟩ := List.mem_flatMap.mp behind
          rcases List.mem_cons.mp mem with rfl | mem
          · split <;> rfl
          · exact inOthers term isOther c mem

/-! ### Reading an equation -/

namespace System

/-- The terms of an equation that are written: those with a coefficient that is not zero. -/
def termsOf (system : System α) (i : Fin system.size) : List (α × Char) :=
  ((List.finRange system.size).map fun j =>
    (system.coefficients.entry i j, system.unknowns.get j)).filter fun term => !(term.1 == 0)

/-- The equation that is read from a written one. -/
def writtenEquation (system : System α) (i : Fin system.size) : Equation α :=
  ⟨writtenTerms (system.termsOf i), system.constants.get i⟩

/-- Is every number of an equation finite? -/
def isFiniteAt (system : System α) (i : Fin system.size) : Bool :=
  ((system.termsOf i).all fun term => Arithmetic.isFinite term.1) &&
    Arithmetic.isFinite (system.constants.get i)

def HasLetters (system : System α) : Prop :=
  ∀ j, (system.unknowns.get j).isAlpha = true

variable {system : System α}

omit [Numeral α] [ReadsBack α] in
theorem letters_termsOf (letters : system.HasLetters) (i : Fin system.size) :
    ∀ term ∈ system.termsOf i, term.2.isAlpha = true := by
  intro term mem
  obtain ⟨j, -, rfl⟩ := List.mem_map.mp (List.mem_filter.mp mem).1
  exact letters j

/-- An equation without its blanks. -/
theorem removeBlanks_equationText (system : System α) (i : Fin system.size) :
    Text.removeBlanks (system.equationText i) =
      Text.removeBlanks (sumText (system.termsOf i)) ++
        '=' :: Numeral.write (system.constants.get i) := by
  have plain : Text.removeBlanks (Numeral.write (system.constants.get i)) =
      Numeral.write (system.constants.get i) :=
    removeBlanks_of_isSumCharacter (mem_write _)
  rw [equationText, Text.removeBlanks_append, Text.removeBlanks_append, plain, List.append_assoc]
  rfl

/-- A written equation is read back if its numbers are finite. -/
theorem readEquation?_equationText (letters : system.HasLetters) (i : Fin system.size) :
    readEquation? (Text.removeBlanks (system.equationText i)) =
      if system.isFiniteAt i then some (system.writtenEquation i) else none := by
  have noEquals : '=' ∉ Text.removeBlanks (sumText (system.termsOf i)) := fun mem =>
    absurd (mem_removeBlanks_sumText (letters_termsOf letters i) _ mem) (by decide)
  rw [removeBlanks_equationText, readEquation?, Text.cut?_eq_some_iff.mpr ⟨rfl, noEquals⟩,
    Option.bind_some, readFinite?_write, readTerms?_sumText (letters_termsOf letters i)]
  simp only [isFiniteAt]
  by_cases finiteRight : Arithmetic.isFinite (system.constants.get i) = true
  · by_cases finiteLeft : ((system.termsOf i).all fun term => Arithmetic.isFinite term.1) = true
    · simp only [finiteRight, finiteLeft, Bool.and_self, if_true]
      rfl
    · simp [finiteLeft]
  · simp [finiteRight]

/-! ### Reading the equations -/

omit [Arithmetic α] [Numeral α] [ReadsBack α] in
theorem removeBlanks_intercalate (parts : List (List Char)) :
    Text.removeBlanks (List.intercalate [';', ' '] parts) =
      List.intercalate [';'] (parts.map Text.removeBlanks) := by
  induction parts with
  | nil => rfl
  | cons part parts ih =>
      cases parts with
      | nil => simp
      | cons next others =>
          rw [List.intercalate_cons_cons, Text.removeBlanks_append, Text.removeBlanks_append, ih]
          simp only [List.map_cons, List.intercalate_cons_cons]
          rfl

def writtenEquations (system : System α) : List (Equation α) :=
  (List.finRange system.size).map system.writtenEquation

/-- The text of a system is cut into its equations. -/
theorem nonemptyPieces_text (letters : system.HasLetters) :
    Text.nonemptyPieces (· == ';') (Text.removeBlanks system.text) =
      (List.finRange system.size).map fun i => Text.removeBlanks (system.equationText i) := by
  rw [text, removeBlanks_intercalate, List.map_map, @Text.nonemptyPieces_intercalate _ _ ';' rfl]
  · refine List.filter_eq_self.mpr fun piece mem => ?_
    obtain ⟨i, -, rfl⟩ := List.mem_map.mp mem
    simp [removeBlanks_equationText]
  · intro piece mem c inPiece
    obtain ⟨i, -, rfl⟩ := List.mem_map.mp mem
    rw [beq_eq_false_iff_ne]
    rintro rfl
    rw [Function.comp_apply, removeBlanks_equationText] at inPiece
    rcases List.mem_append.mp inPiece with inSum | behind
    · exact absurd (mem_removeBlanks_sumText (letters_termsOf letters i) _ inSum) (by decide)
    · rcases List.mem_cons.mp behind with equals | inNumber
      · cases equals
      · exact absurd (mem_write _ _ inNumber) (by decide)

omit [Arithmetic α] [Numeral α] [ReadsBack α] in
/-- Reading all items succeeds if each one is read. -/
theorem mapM_ite {β γ : Type} (test : β → Bool) (f : β → γ) (items : List β) :
    (items.mapM fun item => if test item then some (f item) else none) =
      if items.all test then some (items.map f) else none := by
  induction items with
  | nil => rfl
  | cons item items ih =>
      rw [List.mapM_cons, ih, List.all_cons]
      cases test item with
      | false => rfl
      | true =>
          cases items.all test with
          | false => rfl
          | true => rfl

/-- The equations of a system are read back from its text exactly if all of its numbers are
finite. -/
theorem systemText_text {equations : List (Equation α)} (letters : system.HasLetters)
    (nonempty : 0 < system.size) :
    SystemText (Text.removeBlanks system.text) equations ↔
      (∀ i, system.isFiniteAt i = true) ∧ equations = system.writtenEquations := by
  have read : ((List.finRange system.size).map fun i =>
      Text.removeBlanks (system.equationText i)).mapM readEquation? =
      if (List.finRange system.size).all system.isFiniteAt then some system.writtenEquations
      else none := by
    rw [List.mapM_map, writtenEquations, ← mapM_ite]
    exact congrArg (fun f => (List.finRange system.size).mapM f)
      (funext (readEquation?_equationText letters))
  have some_equation : system.writtenEquations ≠ [] := by
    rw [writtenEquations, Ne, List.map_eq_nil_iff, List.finRange_eq_nil_iff]
    exact nonempty.ne'
  have all_finite : (List.finRange system.size).all system.isFiniteAt = true ↔
      ∀ i, system.isFiniteAt i = true := by
    simp [List.all_eq_true]
  rw [systemText_iff, nonemptyPieces_text letters, read, ← all_finite]
  split
  · rename_i finite
    constructor
    · rintro ⟨-, same⟩
      exact ⟨finite, (Option.some.inj same).symm⟩
    · rintro ⟨-, rfl⟩
      exact ⟨some_equation, rfl⟩
  · rename_i infinite
    constructor
    · rintro ⟨-, impossible⟩
      cases impossible
    · rintro ⟨finite, -⟩
      exact absurd finite infinite

end System

end Calculator.Linear
