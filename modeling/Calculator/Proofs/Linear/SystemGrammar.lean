import Calculator.Linear.System
import Calculator.Proofs.Decimal.LiteralEnd
import Calculator.Proofs.Linear.Matrix
import Calculator.Proofs.Text.Pieces
import Mathlib.Data.Finset.Card
import Mathlib.Data.List.Sort
import Mathlib.Data.List.TakeWhile

/-!
The grammar of systems of equations.

`SystemText` says which texts are systems: equations between semicolons, each a sum of
signed terms (`SumText`) set equal to a finite number. `System.Describes` says what such
equations mean. `readSystem_eq_ok_iff` is the main statement: reading accepts exactly the
grammar and returns exactly the meaning.

A term ends where no character of a term follows. So the terms of the grammar need no rule
of longest match: all terms but the first begin with a sign, and a sign is no such
character.
-/

namespace Calculator.Linear

variable {α : Type} [Arithmetic α] [Numeral α]

/-! ### Terms -/

/-- A run of characters of a term, at least one. -/
def IsRun (run : List Char) : Prop :=
  run ≠ [] ∧ ∀ c ∈ run, isTermCharacter c = true

/-- What a run of characters stands for as a term without its sign: a finite number, a
letter alone, or a finite number followed by a letter. A run that ends in a letter is no
number; of the texts that read as one, only the words for what is not finite do. -/
inductive TermText : List Char → Term α → Prop where
  | number {run : List Char} {value : α} : readFinite? run = some value →
      (∀ last, run.getLast? = some last → last.isAlpha = false) → TermText run ⟨value, none⟩
  | letter {c : Char} : c.isAlpha = true → TermText [c] ⟨1, some c⟩
  | multiple {number : List Char} {value : α} {c : Char} : number ≠ [] →
      readFinite? number = some value → c.isAlpha = true →
      TermText (number ++ [c]) ⟨value, some c⟩

/-- A sum of terms. Every term is a run of characters behind a sign, which only the first
term of a sum may lack; `true` stands for the start of a sum. The coefficient of a term is
that of its run times one, or times minus one behind a minus. -/
inductive SumText : Bool → List Char → List (Term α) → Prop where
  | nil {start : Bool} : SumText start [] []
  | bare {run rest : List Char} {term : Term α} {terms : List (Term α)} : IsRun run →
      TermText run term → SumText false rest terms →
      SumText true (run ++ rest) (⟨1 * term.coefficient, term.letter⟩ :: terms)
  | plus {start : Bool} {run rest : List Char} {term : Term α} {terms : List (Term α)} :
      IsRun run → TermText run term → SumText false rest terms →
      SumText start ('+' :: (run ++ rest)) (⟨1 * term.coefficient, term.letter⟩ :: terms)
  | minus {start : Bool} {run rest : List Char} {term : Term α} {terms : List (Term α)} :
      IsRun run → TermText run term → SumText false rest terms →
      SumText start ('-' :: (run ++ rest)) (⟨-1 * term.coefficient, term.letter⟩ :: terms)

/-- A run is read as the term it stands for. -/
theorem TermText.readUnsigned? {run : List Char} {term : Term α} (nonempty : run ≠ [])
    (stands : TermText run term) : readUnsigned? run = some term := by
  rw [Linear.readUnsigned?]
  cases stands with
  | number finite noLetter =>
      have atEnd := List.getLast?_eq_some_getLast nonempty
      simp [atEnd, noLetter _ atEnd, finite]
  | letter letter => simp [letter]
  | multiple number finite letter => simp [letter, number, finite]

/-- What is read from a run is what it stands for. -/
theorem termText_of_readUnsigned? {run : List Char} {term : Term α}
    (read : readUnsigned? run = some term) : TermText run term := by
  rcases List.eq_nil_or_concat run with rfl | ⟨front, last, rfl⟩
  · cases read
  · rw [Linear.readUnsigned?, List.concat_eq_append, List.getLast?_concat] at read
    dsimp only at read
    rw [List.concat_eq_append]
    split at read
    · rename_i letter
      rw [List.dropLast_concat] at read
      split at read
      · rename_i alone
        cases read
        rw [List.isEmpty_iff.mp alone]
        exact .letter letter
      · rename_i number
        obtain ⟨value, finite, rfl⟩ := Option.map_eq_some_iff.mp read
        exact .multiple (fun empty => number (List.isEmpty_iff.mpr empty)) finite letter
    · rename_i noLetter
      obtain ⟨value, finite, rfl⟩ := Option.map_eq_some_iff.mp read
      refine .number finite fun c atEnd => ?_
      rw [List.getLast?_concat] at atEnd
      exact Option.some.inj atEnd ▸ Bool.eq_false_iff.mpr noLetter

/-- A character of a term is no sign. -/
theorem readSign_of_isTermCharacter {c : Char} {rest : List Char}
    (inTerm : isTermCharacter c = true) :
    Decimal.readSign (c :: rest) = (false, c :: rest) := by
  unfold Decimal.readSign
  split
  · rename_i split
    cases (List.cons.inj split).1
    exact absurd inTerm (by decide)
  · rename_i split
    cases (List.cons.inj split).1
    exact absurd inTerm (by decide)
  · rfl

/-- Behind its first term, a sum does not go on with a character of a term. -/
theorem SumText.boundary {rest : List Char} {terms : List (Term α)}
    (sum : SumText false rest terms) : ∀ c, rest.head? = some c → isTermCharacter c = false := by
  cases sum with
  | nil => simp
  | plus => simp [isTermCharacter]
  | minus => simp [isTermCharacter]

/-- A run in front of something else is cut off there. -/
theorem IsRun.takeWhile_append {run rest : List Char} (isRun : IsRun run)
    (boundary : ∀ c, rest.head? = some c → isTermCharacter c = false) :
    (run ++ rest).takeWhile isTermCharacter = run ∧
      (run ++ rest).dropWhile isTermCharacter = rest := by
  rw [List.takeWhile_append_of_pos isRun.2, List.dropWhile_append_of_pos isRun.2]
  cases rest with
  | nil => simp
  | cons c rest => simp [boundary c rfl]

/-- A sum without a first sign, followed by what cannot go on with a term, is one behind
the first term. -/
theorem SumText.of_boundary {rest : List Char} {terms : List (Term α)}
    (sum : SumText true rest terms)
    (boundary : ∀ c, rest.head? = some c → isTermCharacter c = false) :
    SumText false rest terms := by
  cases sum with
  | nil => exact .nil
  | plus isRun stands others => exact .plus isRun stands others
  | minus isRun stands others => exact .minus isRun stands others
  | bare isRun stands others =>
      obtain ⟨nonempty, inTerm⟩ := isRun
      obtain ⟨c, run, rfl⟩ := List.exists_cons_of_ne_nil nonempty
      have outside := boundary c rfl
      rw [inTerm c List.mem_cons_self] at outside
      cases outside

/-- The next term of a text is read up to where no character of a term follows. -/
theorem readTerms?_run {text run rest : List Char}
    (behindSign : (Decimal.readSign text).2 = run ++ rest) (isRun : IsRun run)
    (boundary : ∀ c, rest.head? = some c → isTermCharacter c = false) :
    readTerms? (α := α) text = (readUnsigned? run).bind fun term =>
      (readTerms? rest).map (term.signed (Decimal.readSign text).1 :: ·) := by
  have nonempty : text ≠ [] := by
    rintro rfl
    exact isRun.1 (List.append_eq_nil_iff.mp behindSign.symm).1
  obtain ⟨taken, dropped⟩ := isRun.takeWhile_append boundary
  rw [readTerms?, if_neg nonempty]
  simp only [behindSign, taken, dropped, if_neg isRun.1]

theorem readTerms?_of_run {text run rest : List Char} {term : Term α} {terms : List (Term α)}
    (behindSign : (Decimal.readSign text).2 = run ++ rest) (isRun : IsRun run)
    (boundary : ∀ c, rest.head? = some c → isTermCharacter c = false)
    (stands : TermText run term) (others : readTerms? rest = some terms) :
    readTerms? text = some (term.signed (Decimal.readSign text).1 :: terms) := by
  rw [readTerms?_run behindSign isRun boundary, stands.readUnsigned? isRun.1, others,
    Option.bind_some, Option.map_some]

/-- A sum of terms is read as its terms. -/
theorem SumText.readTerms? {start : Bool} {text : List Char} {terms : List (Term α)}
    (sum : SumText start text terms) : readTerms? text = some terms := by
  induction sum with
  | nil => rw [Linear.readTerms?, if_pos rfl]
  | @bare run rest _ _ isRun stands others ih =>
      have unsigned : Decimal.readSign (run ++ rest) = (false, run ++ rest) := by
        obtain ⟨c, tail, rfl⟩ := List.exists_cons_of_ne_nil isRun.1
        exact readSign_of_isTermCharacter (isRun.2 c List.mem_cons_self)
      have read := readTerms?_of_run (by rw [unsigned]) isRun others.boundary stands ih
      rwa [unsigned] at read
  | plus isRun stands others ih => exact readTerms?_of_run rfl isRun others.boundary stands ih
  | minus isRun stands others ih => exact readTerms?_of_run rfl isRun others.boundary stands ih

/-- What is read from a text is a sum of terms. -/
theorem sumText_of_readTerms? {text : List Char} {terms : List (Term α)}
    (read : readTerms? text = some terms) : SumText true text terms := by
  fun_induction Linear.readTerms? (α := α) text generalizing terms with
  | case1 =>
      cases read
      exact .nil
  | case2 => cases read
  | case3 text nonempty body inTerm =>
      rename_i ih
      obtain ⟨term, readTerm, read⟩ := Option.bind_eq_some_iff.mp read
      obtain ⟨others, readOthers, rfl⟩ := Option.map_eq_some_iff.mp read
      have stands := termText_of_readUnsigned? readTerm
      have isRun : IsRun (body.takeWhile isTermCharacter) :=
        ⟨inTerm, fun c mem => List.mem_takeWhile_imp mem⟩
      have boundary : ∀ c, (body.dropWhile isTermCharacter).head? = some c →
          isTermCharacter c = false := by
        intro c atHead
        have stop := List.head?_dropWhile_not isTermCharacter body
        rw [atHead] at stop
        exact stop
      have sum := (ih readOthers).of_boundary boundary
      have whole : body.takeWhile isTermCharacter ++ body.dropWhile isTermCharacter = body :=
        List.takeWhile_append_dropWhile
      have signed : text = '-' :: body ∧ (Decimal.readSign text).1 = true ∨
          (text = '+' :: body ∨ text = body) ∧ (Decimal.readSign text).1 = false := by
        simp only [body, Decimal.readSign]
        split
        · exact .inl ⟨rfl, rfl⟩
        · exact .inr ⟨.inl rfl, rfl⟩
        · exact .inr ⟨.inr rfl, rfl⟩
      rcases signed with ⟨split, negative⟩ | ⟨split | split, positive⟩
      · rw [negative, split, ← whole]
        exact .minus isRun stands sum
      · rw [positive, split, ← whole]
        exact .plus isRun stands sum
      · rw [positive, split, ← whole]
        exact .bare isRun stands sum

/-! ### Equations -/

/-- An equation: a sum in front of the first equals sign, and behind it a finite number. -/
def EquationText (text : List Char) (equation : Equation α) : Prop :=
  ∃ left right, text = left ++ '=' :: right ∧ '=' ∉ left ∧
    readFinite? right = some equation.right ∧ SumText true left equation.terms

theorem readEquation?_eq_some_iff {text : List Char} {equation : Equation α} :
    readEquation? text = some equation ↔ EquationText text equation := by
  rw [readEquation?]
  constructor
  · intro read
    obtain ⟨⟨left, right⟩, cut, read⟩ := Option.bind_eq_some_iff.mp read
    obtain ⟨value, readRight, read⟩ := Option.bind_eq_some_iff.mp read
    obtain ⟨terms, readLeft, rfl⟩ := Option.map_eq_some_iff.mp read
    obtain ⟨split, absent⟩ := Text.cut?_eq_some_iff.mp cut
    exact ⟨left, right, split, absent, readRight, sumText_of_readTerms? readLeft⟩
  · rintro ⟨left, right, split, absent, readRight, sum⟩
    rw [Text.cut?_eq_some_iff.mpr ⟨split, absent⟩, Option.bind_some, readRight,
      Option.bind_some, sum.readTerms?]
    rfl

/-! ### The order of the unknowns -/

/-- `unknowns` are the letters of a sequence, each once, in the order in which they first
occur. -/
structure IsFirstSeen (letters unknowns : List Char) : Prop where
  mem_iff : ∀ c, c ∈ unknowns ↔ c ∈ letters
  ordered : unknowns.Pairwise fun c d => letters.idxOf c < letters.idxOf d

/-- Leaving letters out does not change the order of those that stay. -/
theorem idxOf_filter_lt_iff {p : Char → Bool} {c d : Char} (keepsC : p c = true)
    (keepsD : p d = true) (letters : List Char) :
    (letters.filter p).idxOf c < (letters.filter p).idxOf d ↔
      letters.idxOf c < letters.idxOf d := by
  induction letters with
  | nil => rfl
  | cons first letters ih =>
      by_cases keeps : p first = true
      · rw [List.filter_cons_of_pos keeps]
        rcases eq_or_ne first c with rfl | otherC
        · rcases eq_or_ne first d with rfl | otherD
          · simp
          · simp [List.idxOf_cons_ne _ otherD]
        · rcases eq_or_ne first d with rfl | otherD
          · simp
          · simp [List.idxOf_cons_ne _ otherC, List.idxOf_cons_ne _ otherD, ih]
      · have otherC : first ≠ c := fun same => keeps (same ▸ keepsC)
        have otherD : first ≠ d := fun same => keeps (same ▸ keepsD)
        rw [List.filter_cons_of_neg keeps, ih, List.idxOf_cons_ne _ otherC,
          List.idxOf_cons_ne _ otherD]
        exact Nat.succ_lt_succ_iff.symm

theorem isFirstSeen_eraseDups : ∀ letters : List Char, IsFirstSeen letters letters.eraseDups
  | [] => ⟨fun c => Iff.rfl, .nil⟩
  | first :: letters => by
      let others := letters.filter fun c => !c == first
      have kept : ∀ c, c ∈ others.eraseDups → (!c == first) = true :=
        fun c mem => (List.mem_filter.mp (List.mem_eraseDups.mp mem)).2
      have other : ∀ c, c ∈ others.eraseDups → first ≠ c :=
        fun c mem same => by simpa [same] using kept c mem
      refine ⟨fun c => List.mem_eraseDups, ?_⟩
      rw [List.eraseDups_cons]
      refine List.pairwise_cons.mpr ⟨fun c mem => ?_, ?_⟩
      · rw [List.idxOf_cons_self, List.idxOf_cons_ne _ (other c mem)]
        exact Nat.succ_pos _
      · refine (isFirstSeen_eraseDups others).ordered.imp_of_mem fun memC memD before => ?_
        rw [List.idxOf_cons_ne _ (other _ memC), List.idxOf_cons_ne _ (other _ memD)]
        exact Nat.succ_lt_succ ((idxOf_filter_lt_iff (kept _ memC) (kept _ memD) _).mp before)
termination_by letters => letters.length
decreasing_by exact Nat.lt_succ_of_le (List.length_filter_le _ _)

namespace IsFirstSeen

variable {letters unknowns : List Char}

theorem nodup (firstSeen : IsFirstSeen letters unknowns) : unknowns.Nodup := by
  apply firstSeen.ordered.imp
  intro c d before same
  subst same
  exact Nat.lt_irrefl _ before

/-- The unknowns are as many as there are different letters. -/
theorem length_eq (firstSeen : IsFirstSeen letters unknowns) :
    unknowns.length = letters.toFinset.card := by
  rw [← List.toFinset_card_of_nodup firstSeen.nodup]
  congr 1
  ext c
  simpa using firstSeen.mem_iff c

/-- The letters determine the unknowns. -/
theorem unique {others : List Char} (firstSeen : IsFirstSeen letters unknowns)
    (firstSeen' : IsFirstSeen letters others) : unknowns = others := by
  have perm : unknowns.Perm others := (List.perm_ext_iff_of_nodup firstSeen.nodup
    firstSeen'.nodup).mpr fun c => (firstSeen.mem_iff c).trans (firstSeen'.mem_iff c).symm
  exact perm.eq_of_pairwise (fun c d _ _ before behind => absurd (before.trans behind)
    (Nat.lt_irrefl _)) firstSeen.ordered firstSeen'.ordered

end IsFirstSeen

/-! ### What equations mean -/

namespace Equation

/-- The signed coefficients that stand with a letter, or alone, from left to right. -/
def coefficientsWith (equation : Equation α) (letter : Option Char) : List α :=
  (equation.terms.filter fun term => term.letter = letter).map Term.coefficient

omit [Numeral α] in
theorem coefficientOf_eq (equation : Equation α) (letter : Char) :
    equation.coefficientOf letter =
      (equation.coefficientsWith (some letter)).foldl (· + ·) 0 := by
  simp [coefficientOf, coefficientsWith, List.foldl_map, List.foldl_filter]

omit [Numeral α] in
theorem constant_eq (equation : Equation α) :
    equation.constant = (equation.coefficientsWith none).foldl (· - ·) equation.right := by
  simp [constant, coefficientsWith, List.foldl_map, List.foldl_filter]

end Equation

/-- The system that equations describe: its unknowns are their letters in the order in
which they first occur, an entry is the sum of the coefficients of a letter in an equation,
and a constant is the right of an equation less the numbers on its left. -/
structure System.Describes (system : System α) (equations : List (Equation α)) : Prop where
  size_eq : system.size = equations.length
  unknowns : IsFirstSeen (equations.flatMap Equation.letters) system.unknowns.toList
  coefficients : ∀ i j, system.coefficients.entry i j =
    ((equations.get (i.cast size_eq)).coefficientsWith
      (some (system.unknowns.get j))).foldl (· + ·) 0
  constants : ∀ i, system.constants.get i =
    ((equations.get (i.cast size_eq)).coefficientsWith none).foldl (· - ·)
      (equations.get (i.cast size_eq)).right

omit [Numeral α] in
/-- Equations describe at most one system. -/
theorem System.Describes.unique {s t : System α} {equations : List (Equation α)}
    (describesS : s.Describes equations) (describesT : t.Describes equations) : s = t := by
  obtain ⟨size, coefficients, constants, unknowns⟩ := s
  obtain ⟨size', coefficients', constants', unknowns'⟩ := t
  obtain rfl : size = equations.length := describesS.size_eq
  obtain rfl : size' = equations.length := describesT.size_eq
  obtain rfl : unknowns = unknowns' :=
    Vector.toList_inj.mp (describesS.unknowns.unique describesT.unknowns)
  obtain rfl : coefficients = coefficients' :=
    DenseMatrix.ext_entry fun i j =>
      (describesS.coefficients i j).trans (describesT.coefficients i j).symm
  obtain rfl : constants = constants' :=
    ext_get fun i => (describesS.constants i).trans (describesT.constants i).symm
  rfl

omit [Numeral α] in
/-- The collected system is the one that the equations describe. -/
theorem System.describes_of_ofEquations? {equations : List (Equation α)} {system : System α}
    (collected : System.ofEquations? equations = some system) : system.Describes equations := by
  rw [System.ofEquations?] at collected
  split at collected
  · rename_i square
    cases collected
    refine ⟨rfl, ?_, ?_, ?_⟩
    · have kept : (Vector.ofFn fun j : Fin equations.length =>
          (equations.flatMap Equation.letters).eraseDups.get (j.cast square.symm)).toList =
            (equations.flatMap Equation.letters).eraseDups := by
        apply List.ext_getElem
        · simp [square]
        · intro i inside inside'
          simp
      rw [kept]
      exact isFirstSeen_eraseDups _
    · intro i j
      simp [Equation.coefficientOf_eq]
    · intro i
      simp [Equation.constant_eq]
  · cases collected

omit [Numeral α] in
/-- Equations are collected into a system exactly if they have as many different letters as
there are equations. -/
theorem System.ofEquations?_eq_some_iff {equations : List (Equation α)} {system : System α} :
    System.ofEquations? equations = some system ↔
      (equations.flatMap Equation.letters).toFinset.card = equations.length ∧
        system.Describes equations := by
  have count := (isFirstSeen_eraseDups (equations.flatMap Equation.letters)).length_eq
  constructor
  · intro collected
    have describes := System.describes_of_ofEquations? collected
    refine ⟨?_, describes⟩
    rw [← describes.unknowns.length_eq, Vector.length_toList, describes.size_eq]
  · rintro ⟨square, describes⟩
    obtain ⟨collected, found⟩ : ∃ collected, System.ofEquations? equations = some collected := by
      rw [System.ofEquations?, dif_pos (count.trans square)]
      exact ⟨_, rfl⟩
    rw [found, (System.describes_of_ofEquations? found).unique describes]

/-! ### Systems -/

/-- A system without blanks: texts without a semicolon, joined by semicolons. Those that
are not empty are equations, and there is at least one. -/
def SystemText (text : List Char) (equations : List (Equation α)) : Prop :=
  ∃ pieces, List.intercalate [';'] pieces = text ∧ (∀ piece ∈ pieces, ';' ∉ piece) ∧
    List.Forall₂ EquationText (pieces.filter fun piece => !piece.isEmpty) equations ∧
      equations ≠ []

/-- The grammar cuts a text where the reader does. -/
theorem systemText_iff {text : List Char} {equations : List (Equation α)} :
    SystemText text equations ↔ equations ≠ [] ∧
      (Text.nonemptyPieces (· == ';') text).mapM readEquation? = some equations := by
  rw [Text.mapM_eq_some_iff]
  simp only [readEquation?_eq_some_iff]
  constructor
  · rintro ⟨pieces, rfl, whole, each, nonempty⟩
    rw [@Text.nonemptyPieces_intercalate _ (· == ';') ';' rfl]
    · exact ⟨nonempty, each⟩
    · intro piece mem c inPiece
      rw [beq_eq_false_iff_ne]
      rintro rfl
      exact whole piece mem inPiece
  · rintro ⟨nonempty, each⟩
    refine ⟨Text.pieces (· == ';') text, Text.intercalate_pieces ';' text, ?_, each, nonempty⟩
    intro piece mem inPiece
    have outside := Text.not_cut_of_mem_pieces piece mem ';' inPiece
    cases outside

/-- Reading gives a system if the text without blanks is made of equations and they are
collected into it, and otherwise fails in one way. -/
theorem readSystem_eq (text : List Char) :
    (∀ system : System α, readSystem text = .ok system ↔
      ∃ equations, SystemText (Text.removeBlanks text) equations ∧
        System.ofEquations? equations = some system) ∧
    ((∀ system : System α, readSystem text ≠ .ok system) →
      readSystem (α := α) text = .error .unreadable) := by
  simp only [systemText_iff]
  rw [readSystem]
  cases pieces : Text.nonemptyPieces (· == ';') (Text.removeBlanks text) with
  | nil =>
      constructor
      · intro system
        constructor
        · intro read
          cases read
        · rintro ⟨equations, ⟨nonempty, read⟩, -⟩
          rw [List.mapM_nil] at read
          exact absurd (Option.some.inj read).symm nonempty
      · intro _
        rfl
  | cons piece others =>
      dsimp only
      constructor
      · intro system
        constructor
        · intro read
          split at read
          · rename_i collected
            cases read
            obtain ⟨equations, each, collected⟩ := Option.bind_eq_some_iff.mp collected
            refine ⟨equations, ⟨?_, each⟩, collected⟩
            rintro rfl
            cases Text.mapM_eq_some_iff.mp each
          · cases read
        · rintro ⟨equations, ⟨-, each⟩, collected⟩
          rw [each, Option.bind_some, collected]
      · intro rejected
        split
        · rename_i system collected
          exact absurd (by rw [collected]) (rejected system)
        · rfl

/-- Reading a system accepts exactly the grammar and means what is written. A text is read
as a system exactly if it is one without its blanks, its equations have as many different
letters as there are equations, and the system is the one that they describe; any other
text is unreadable. The last part is about `TermText.number`: the condition on its end
concerns no decimal number. -/
theorem readSystem_eq_ok_iff :
    (∀ (text : List Char) (system : System α), readSystem text = .ok system ↔
      ∃ equations, SystemText (Text.removeBlanks text) equations ∧
        (equations.flatMap Equation.letters).toFinset.card = equations.length ∧
          system.Describes equations) ∧
    (∀ text : List Char, (¬ ∃ equations : List (Equation α),
      SystemText (Text.removeBlanks text) equations ∧
        (equations.flatMap Equation.letters).toFinset.card = equations.length) →
      readSystem (α := α) text = .error .unreadable) ∧
    ∀ (run : List Char) (literal : Decimal.Literal), Decimal.Literal.read? run = some literal →
      (∃ coefficient exponent, literal.magnitude = .decimal coefficient exponent) →
        ∀ last, run.getLast? = some last → last.isAlpha = false := by
  refine ⟨?_, ?_, ?_⟩
  · intro text system
    rw [(readSystem_eq text).1]
    simp only [System.ofEquations?_eq_some_iff]
  · intro text outside
    apply (readSystem_eq text).2
    intro system read
    obtain ⟨equations, inGrammar, collected⟩ := ((readSystem_eq text).1 system).mp read
    exact outside ⟨equations, inGrammar, (System.ofEquations?_eq_some_iff.mp collected).1⟩
  · rintro run literal read ⟨coefficient, exponent, decimal⟩
    exact Decimal.not_isAlpha_of_decimal read decimal

end Calculator.Linear
