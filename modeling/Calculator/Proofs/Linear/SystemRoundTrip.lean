import Calculator.Proofs.Decimal.ReadBack
import Calculator.Proofs.Linear.ColumnOrder
import Calculator.Proofs.Linear.PrintedSystem

/-!
Which systems survive their text.

Writing a system leaves out its zeros, so it is read back with its unknowns in the order in
which the columns are met: row by row, and from left to right. `readSystem_text_iff` is the
main statement: a system that was read is found again in its text exactly if its numbers are
finite and the columns are met in their own order.
-/

namespace Calculator.Linear

variable {α : Type} [Arithmetic α]

namespace System

/-! ### Finite systems -/

structure IsFinite (system : System α) : Prop where
  coefficients : ∀ i j, Arithmetic.isFinite (system.coefficients.entry i j) = true
  constants : ∀ i, Arithmetic.isFinite (system.constants.get i) = true

instance (system : System α) : Decidable system.IsFinite :=
  decidable_of_iff ((∀ i j, Arithmetic.isFinite (system.coefficients.entry i j) = true) ∧
    ∀ i, Arithmetic.isFinite (system.constants.get i) = true)
    ⟨fun ⟨coefficients, constants⟩ => ⟨coefficients, constants⟩,
      fun ⟨coefficients, constants⟩ => ⟨coefficients, constants⟩⟩

variable {system : System α}

/-! ### The system that is read back -/

theorem map_snd_termsOf (i : Fin system.size) :
    (system.termsOf i).map Prod.snd = system.lettersAt i (List.finRange system.size) := by
  simp [termsOf, lettersAt, List.filter_map, Function.comp_def]

theorem filterMap_letter_writtenTerms (terms : List (α × Char)) :
    (writtenTerms terms).filterMap Term.letter = terms.map Prod.snd := by
  cases terms with
  | nil => rfl
  | cons first others => simp [writtenTerms, writtenTerm]

theorem flatMap_letters_writtenEquations (system : System α) :
    system.writtenEquations.flatMap Equation.letters = system.writtenLetters := by
  simp [writtenEquations, writtenLetters, List.flatMap_map, Equation.letters, writtenEquation,
    filterMap_letter_writtenTerms, map_snd_termsOf]

/-- The terms with a letter are those that were written with it. -/
theorem filter_writtenTerms (terms : List (α × Char)) (c : Char) :
    (writtenTerms terms).filter (fun term => term.letter = some c) =
      (terms.filter fun term => term.2 = c).map writtenTerm := by
  cases terms with
  | nil => rfl
  | cons first others =>
      rw [writtenTerms, List.filter_map]
      simp [writtenTerm, Function.comp_def]

/-- An unknown is written in an equation once, or not at all if its coefficient is zero. -/
theorem filter_termsOf (distinct : system.HasDistinctUnknowns) (i j : Fin system.size) :
    (system.termsOf i).filter (fun term => term.2 = system.unknowns.get j) =
      if system.coefficients.entry i j == 0 then []
      else [(system.coefficients.entry i j, system.unknowns.get j)] := by
  have alone : (List.finRange system.size).filter (fun k => k = j) = [j] := by
    rw [List.filter_eq, List.count_eq_one_of_mem (List.nodup_finRange _) (List.mem_finRange j)]
    rfl
  have same : ∀ k, system.unknowns.get k = system.unknowns.get j ↔ k = j :=
    fun k => distinct.eq_iff
  rw [termsOf, List.filter_comm, List.filter_map]
  simp only [Function.comp_def, same, alone]
  simp only [List.map_cons, List.map_nil, List.filter_cons, List.filter_nil]
  cases system.coefficients.entry i j == 0 <;> rfl

/-- The coefficients of the equations in a system's text. -/
def rereadCoefficients (system : System α) : DenseMatrix α system.size system.size :=
  .ofFn fun i j => ((system.writtenEquation i).coefficientsWith
    (some (system.unknowns.get j))).foldl (· + ·) 0

/-- The constants of the equations in a system's text. -/
def rereadConstants (system : System α) : Vector α system.size :=
  .ofFn fun i =>
    ((system.writtenEquation i).coefficientsWith none).foldl (· - ·) (system.constants.get i)

/-- The system that the text of a system describes. -/
def reread (system : System α) : System α :=
  ⟨system.size, system.rereadCoefficients, system.rereadConstants, system.unknowns⟩

theorem get_writtenEquations (i : Fin system.size)
    (same : system.size = system.writtenEquations.length) :
    system.writtenEquations.get (i.cast same) = system.writtenEquation i := by
  simp only [writtenEquations, List.get_eq_getElem, List.getElem_map, List.getElem_finRange]
  rfl

/-- The equations describe it if their letters come in the order of the columns. -/
theorem describes_reread
    (firstSeen : IsFirstSeen system.writtenLetters system.unknowns.toList) :
    system.reread.Describes system.writtenEquations := by
  have size_eq : system.size = system.writtenEquations.length := by simp [writtenEquations]
  refine ⟨size_eq, ?_, ?_, ?_⟩
  · rwa [flatMap_letters_writtenEquations]
  · change ∀ i j : Fin system.size, system.rereadCoefficients.entry i j =
      ((system.writtenEquations.get (i.cast size_eq)).coefficientsWith
        (some (system.unknowns.get j))).foldl (· + ·) 0
    intro i j
    rw [rereadCoefficients, DenseMatrix.entry_ofFn, get_writtenEquations]
  · change ∀ i : Fin system.size, system.rereadConstants.get i =
      ((system.writtenEquations.get (i.cast size_eq)).coefficientsWith none).foldl (· - ·)
        (system.writtenEquations.get (i.cast size_eq)).right
    intro i
    rw [rereadConstants, get_ofFn, get_writtenEquations]
    rfl

/-- Lists of numbers that compare as equal, entry by entry, compare as equal. -/
theorem ofFn_beq {β : Type} [BEq β] {n : Nat} {f g : Fin n → β}
    (same : ∀ i, (f i == g i) = true) : (List.ofFn f == List.ofFn g) = true := by
  induction n with
  | zero => rfl
  | succ n ih =>
      rw [List.ofFn_succ, List.ofFn_succ, List.cons_beq_cons, same 0, ih fun i => same i.succ]
      rfl

/-- Systems with the same unknowns whose numbers compare as equal compare as equal. -/
theorem beq_of_entries {n : Nat} {a a' : DenseMatrix α n n} {b b' : Vector α n}
    (unknowns : Vector Char n) (coefficients : ∀ i j, (a.entry i j == a'.entry i j) = true)
    (constants : ∀ i, (b.get i == b'.get i) = true) :
    ((⟨n, a, b, unknowns⟩ : System α) == ⟨n, a', b', unknowns⟩) = true := by
  refine Bool.and_eq_true_iff.mpr ⟨Bool.and_eq_true_iff.mpr ⟨?_, ?_⟩, ?_⟩
  · exact beq_self_eq_true unknowns.toList
  · exact ofFn_beq fun i => ofFn_beq fun j => coefficients i j
  · rw [toList_eq_ofFn, toList_eq_ofFn]
    exact ofFn_beq constants

variable [Numeral α] [ReadsBack α]

open ReadsBack

/-- A coefficient is read back as itself, or as zero if it is one. -/
theorem entry_rereadCoefficients_beq (distinct : system.HasDistinctUnknowns)
    (finite : system.IsFinite) (i j : Fin system.size) :
    (system.rereadCoefficients.entry i j == system.coefficients.entry i j) = true := by
  rw [rereadCoefficients, DenseMatrix.entry_ofFn, Equation.coefficientsWith, writtenEquation,
    filter_writtenTerms, filter_termsOf distinct]
  split
  · rename_i zero
    exact zero_beq _ zero
  · rename_i nonzero
    have read : 0 + (writtenTerm
        (system.coefficients.entry i j, system.unknowns.get j)).coefficient =
        system.coefficients.entry i j :=
      signed_abs _ (finite.coefficients i j) (Bool.eq_false_iff.mpr nonzero)
    simp only [List.map_cons, List.map_nil, List.foldl_cons, List.foldl_nil, read]
    exact beq_self _ (finite.coefficients i j)

/-- A constant is read back as itself, also behind an empty sum. -/
theorem get_rereadConstants_beq (finite : system.IsFinite) (i : Fin system.size) :
    (system.rereadConstants.get i == system.constants.get i) = true := by
  rw [rereadConstants, get_ofFn, Equation.coefficientsWith, writtenEquation]
  cases system.termsOf i with
  | nil => exact sub_zero _ (finite.constants i)
  | cons first others =>
      have noNumber : (writtenTerms (first :: others)).filter (fun term => term.letter = none) =
          [] := by
        rw [writtenTerms, List.filter_map]
        simp [writtenTerm, Function.comp_def]
      rw [noNumber]
      exact beq_self _ (finite.constants i)

/-- A finite system compares as equal to the one that its text describes. -/
theorem reread_beq (distinct : system.HasDistinctUnknowns) (finite : system.IsFinite) :
    (system.reread == system) = true :=
  beq_of_entries system.unknowns (entry_rereadCoefficients_beq distinct finite)
    (get_rereadConstants_beq finite)

/-- All written numbers are finite exactly if all numbers are: what is left out is zero. -/
theorem isFiniteAt_iff : (∀ i, system.isFiniteAt i = true) ↔ system.IsFinite := by
  have row : ∀ i, ((system.termsOf i).all fun term => Arithmetic.isFinite term.1) = true ↔
      ∀ j, Arithmetic.isFinite (system.coefficients.entry i j) = true := by
    intro i
    rw [List.all_eq_true]
    constructor
    · intro written j
      by_cases zero : (system.coefficients.entry i j == 0) = true
      · exact isFinite_of_beq_zero _ zero
      · exact written (system.coefficients.entry i j, system.unknowns.get j)
          (List.mem_filter.mpr ⟨List.mem_map_of_mem (List.mem_finRange j), by simpa using zero⟩)
    · intro finite term mem
      obtain ⟨j, -, rfl⟩ := List.mem_map.mp (List.mem_filter.mp mem).1
      exact finite j
  constructor
  · intro finite
    simp only [isFiniteAt, Bool.and_eq_true, row] at finite
    exact ⟨fun i => (finite i).1, fun i => (finite i).2⟩
  · rintro ⟨coefficients, constants⟩ i
    rw [isFiniteAt, Bool.and_eq_true, row]
    exact ⟨coefficients i, constants i⟩

/-- A system with different letters for unknowns is found again in its text exactly if its
numbers are finite and its columns are met in their order. -/
theorem exists_readSystem_text_iff (letters : system.HasLetters)
    (distinct : system.HasDistinctUnknowns) (nonempty : 0 < system.size) :
    (∃ t, readSystem system.text = .ok t ∧ (t == system) = true) ↔
      system.IsFinite ∧ system.MetInOrder := by
  rw [← isFiniteAt_iff, ← isFirstSeen_iff distinct]
  simp only [(readSystem_eq system.text).1, systemText_text letters nonempty]
  constructor
  · rintro ⟨t, ⟨equations, ⟨finite, rfl⟩, collected⟩, equal⟩
    have describes := describes_of_ofEquations? collected
    have same : t.unknowns.toList = system.unknowns.toList :=
      eq_of_beq (Bool.and_eq_true_iff.mp (Bool.and_eq_true_iff.mp equal).1).1
    refine ⟨finite, ?_⟩
    rw [← same, ← flatMap_letters_writtenEquations]
    exact describes.unknowns
  · rintro ⟨finite, firstSeen⟩
    have describes := describes_reread firstSeen
    refine ⟨system.reread, ⟨system.writtenEquations, ⟨finite, rfl⟩, ?_⟩, ?_⟩
    · rw [ofEquations?_eq_some_iff, ← describes.unknowns.length_eq]
      exact ⟨(Vector.length_toList ..).trans describes.size_eq, describes⟩
    · exact reread_beq distinct (isFiniteAt_iff.mp finite)

end System

/-! ### Systems that were read -/

section Read

variable [Numeral α]

theorem TermText.isAlpha {run : List Char} {term : Term α} (stands : TermText run term) :
    ∀ c, term.letter = some c → c.isAlpha = true := by
  cases stands with
  | number => simp
  | letter letter => simpa using letter
  | multiple _ _ letter => simpa using letter

theorem SumText.isAlpha {start : Bool} {text : List Char} {terms : List (Term α)}
    (sum : SumText start text terms) :
    ∀ term ∈ terms, ∀ c, term.letter = some c → c.isAlpha = true := by
  induction sum with
  | nil => simp
  | bare _ stands _ ih => exact List.forall_mem_cons.mpr ⟨stands.isAlpha, ih⟩
  | plus _ stands _ ih => exact List.forall_mem_cons.mpr ⟨stands.isAlpha, ih⟩
  | minus _ stands _ ih => exact List.forall_mem_cons.mpr ⟨stands.isAlpha, ih⟩

/-- The letters of equations that were read are letters. -/
theorem SystemText.isAlpha {text : List Char} {equations : List (Equation α)}
    (read : SystemText text equations) :
    ∀ c ∈ equations.flatMap Equation.letters, c.isAlpha = true := by
  obtain ⟨pieces, -, -, each, -⟩ := read
  intro c mem
  obtain ⟨equation, inEquations, mem⟩ := List.mem_flatMap.mp mem
  obtain ⟨term, inTerms, letter⟩ := List.mem_filterMap.mp mem
  obtain ⟨k, inside, rfl⟩ := List.getElem_of_mem inEquations
  obtain ⟨left, right, -, -, -, sum⟩ := each.get (each.length_eq ▸ inside) inside
  exact sum.isAlpha term inTerms c letter

/-- A system that was read has different letters for its unknowns, at least one. -/
theorem unknowns_of_readSystem {text : List Char} {system : System α}
    (read : readSystem text = .ok system) :
    system.HasLetters ∧ system.HasDistinctUnknowns ∧ 0 < system.size := by
  obtain ⟨equations, inGrammar, collected⟩ := ((readSystem_eq text).1 system).mp read
  have describes := System.describes_of_ofEquations? collected
  refine ⟨fun j => ?_, fun j j' same => ?_, ?_⟩
  · apply inGrammar.isAlpha
    rw [← describes.unknowns.mem_iff, System.toList_unknowns]
    exact List.mem_map_of_mem (List.mem_finRange j)
  · have nodup := describes.unknowns.nodup
    rw [System.toList_eq_ofFn, List.nodup_ofFn] at nodup
    exact nodup same
  · obtain ⟨-, -, -, -, nonempty⟩ := inGrammar
    rw [describes.size_eq]
    exact List.length_pos_iff.mpr nonempty

end Read

/-! ### Systems of doubles -/

open Double in
/-- Doubles are read back from their text, and a sign goes in front of a magnitude. -/
instance : ReadsBack Float where
  read?_write := read?_write
  write_ne_nil := write_ne_nil
  mem_write x c mem := by
    rcases Double.mem_write mem with digit | rfl | letter | ⟨rfl, -⟩
    · simp [isSumCharacter, isTermCharacter, digit]
    · rfl
    · simp [isSumCharacter, isTermCharacter, letter]
    · rfl
  mem_write_abs x c mem := by
    rcases Double.mem_write mem with digit | rfl | letter | ⟨-, negative⟩
    · simp [isTermCharacter, digit]
    · rfl
    · simp [isTermCharacter, letter]
    · exact absurd negative (Bool.eq_false_iff.mp (isNegative_abs x))
  read?_zero := rfl
  isFinite_zero := rfl
  isFinite_one := rfl
  isFinite_abs := isFinite_abs
  isFinite_of_beq_zero x := isFinite_of_beq_zero
  abs_eq_one x := eq_one_of_beq
  beq_self x := beq_self_of_isFinite
  zero_beq x := PartialEquivBEq.symm
  signed_abs x finite nonzero := by
    have below : ∀ y : Float, Arithmetic.below x y = Float.lt x y := fun y => Bool.decide_eq_true
    rw [below]
    exact zero_add_signed_abs finite nonzero
  sub_zero x := sub_one_mul_zero_beq

/-- Exactly which systems survive being written and read. A system that was read is found
again in its text, up to the sign of zeros, if its coefficients and constants are finite and
the columns are met in their order, and only then. -/
theorem readSystem_text_iff {text : List Char} {system : System Float}
    (read : readSystem text = .ok system) :
    (∃ t, readSystem system.text = .ok t ∧ (t == system) = true) ↔
      system.IsFinite ∧ system.MetInOrder := by
  obtain ⟨letters, distinct, nonempty⟩ := unknowns_of_readSystem read
  exact System.exists_readSystem_text_iff letters distinct nonempty

/-- A text that is read as a system with a property that can be decided. -/
theorem exists_readSystem_of_any (text : List Char) (property : System Float → Prop)
    [DecidablePred property]
    (any : (readSystem text).toOption.any (fun system => decide (property system)) = true) :
    ∃ system, readSystem text = .ok system ∧ property system := by
  cases read : readSystem (α := Float) text with
  | error _ =>
      rw [read] at any
      cases any
  | ok system =>
      rw [read] at any
      exact ⟨system, rfl, of_decide_eq_true any⟩

/-- Signs, coefficients of one and a row of zeros survive. A column that is met too late,
because its unknown cancelled where it was first seen, does not. -/
theorem readSystem_text_iff_cancelled :
    (∃ s t : System Float,
      readSystem "x - y + z = 2; 2x - 2x = 0; -0.5y + 3z = 1".toList = .ok s ∧
        readSystem s.text = .ok t ∧ (t == s) = true) ∧
    ∃ s : System Float, readSystem "x - x + y = 1; x = 2".toList = .ok s ∧
      ¬ ∃ t, readSystem s.text = .ok t ∧ (t == s) = true := by
  constructor
  · obtain ⟨s, read, survives⟩ := exists_readSystem_of_any
      "x - y + z = 2; 2x - 2x = 0; -0.5y + 3z = 1".toList
      (fun s => s.IsFinite ∧ s.MetInOrder) (by decide +kernel)
    obtain ⟨t, again, equal⟩ := (readSystem_text_iff read).mpr survives
    exact ⟨s, t, read, again, equal⟩
  · obtain ⟨s, read, late⟩ := exists_readSystem_of_any "x - x + y = 1; x = 2".toList
      (fun s => ¬ s.MetInOrder) (by decide +kernel)
    exact ⟨s, read, fun again => late ((readSystem_text_iff read).mp again).2⟩

end Calculator.Linear
