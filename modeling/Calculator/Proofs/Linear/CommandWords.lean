import Calculator.Linear.Command
import Calculator.Proofs.Linear.SystemRoundTrip
import Calculator.Proofs.Text.CommandWord

/-!
Systems and command words.

A command is recognised by its word in front of the text, while a system is read without its
blanks and letter by letter. The two never meet: a system cannot begin with two letters unless
the first of them can begin a number (`readSystem_of_letters`), and no command word begins so.
The main statement, `systems_are_no_commands`, says what follows for the answers.
-/

namespace Calculator.Linear

variable {α : Type} [Arithmetic α] [Numeral α]

/-! ### Two letters in front -/

theorem isBlank_of_isAlpha {c : Char} (letter : c.isAlpha = true) : Text.isBlank c = false :=
  not_isBlank_of_isSumCharacter (by simp [isSumCharacter, isTermCharacter, letter])

/-- A number behind no sign begins with a digit, a point, or a letter of one of its words. -/
theorem read?_of_letter {c : Char} (letter : c.isAlpha = true)
    (noWord : c.toLower ≠ 'n' ∧ c.toLower ≠ 'i') (rest : List Char) :
    Double.read? (c :: rest) = none := by
  have noDigit : c.isDigit = false :=
    Bool.eq_false_iff.mpr fun digit => by
      rw [Decimal.isAlpha_of_isDigit digit] at letter
      cases letter
  have noPoint : c ≠ '.' := by
    rintro rfl
    cases letter
  have unsigned : Decimal.readSign (c :: rest) = (false, c :: rest) :=
    readSign_of_isTermCharacter (by simp [isTermCharacter, letter])
  have noFraction : Decimal.readFraction (c :: rest) = ([], c :: rest) := by
    unfold Decimal.readFraction
    split
    · rename_i same
      exact absurd (List.cons.inj same).1 noPoint
    · rfl
  have noDecimal : Decimal.readDecimal? (c :: rest) = none := by
    simp [Decimal.readDecimal?, noDigit, noFraction]
  have unread : Decimal.readWord? (c :: rest) = none := by
    simp [Decimal.readWord?, noWord]
  simp [Double.read?, Decimal.Literal.read?, unsigned, noDecimal, unread]

/-- A term of two letters or more, of which the first begins no number, is not read. -/
theorem readUnsigned?_of_letters {c d : Char}
    (unread : ∀ rest, Numeral.read? (α := α) (c :: rest) = none) (rest : List Char) :
    readUnsigned? (α := α) (c :: d :: rest) = none := by
  have notFinite : ∀ rest, readFinite? (α := α) (c :: rest) = none := fun rest => by
    rw [readFinite?, unread]
    rfl
  rw [readUnsigned?, List.getLast?_eq_some_getLast (List.cons_ne_nil _ _)]
  dsimp only
  split
  · simp [notFinite]
  · simp [notFinite]

theorem readTerms?_of_letters {c d : Char}
    (unread : ∀ rest, Numeral.read? (α := α) (c :: rest) = none)
    (letters : c.isAlpha = true ∧ d.isAlpha = true) (rest : List Char) :
    readTerms? (α := α) (c :: d :: rest) = none := by
  have inTerm {e : Char} (letter : e.isAlpha = true) : isTermCharacter e = true := by
    simp [isTermCharacter, letter]
  have unsigned : Decimal.readSign (c :: d :: rest) = (false, c :: d :: rest) :=
    readSign_of_isTermCharacter (inTerm letters.1)
  have run : (c :: d :: rest).takeWhile isTermCharacter =
      c :: d :: rest.takeWhile isTermCharacter := by
    rw [List.takeWhile_cons_of_pos (inTerm letters.1),
      List.takeWhile_cons_of_pos (inTerm letters.2)]
  rw [readTerms?, if_neg (List.cons_ne_nil _ _)]
  simp only [unsigned, run, readUnsigned?_of_letters unread]
  rfl

theorem readEquation?_of_letters {c d : Char}
    (unread : ∀ rest, Numeral.read? (α := α) (c :: rest) = none)
    (letters : c.isAlpha = true ∧ d.isAlpha = true) (rest : List Char) :
    readEquation? (α := α) (c :: d :: rest) = none := by
  have noEquals {e : Char} (letter : e.isAlpha = true) : e ≠ '=' := by
    rintro rfl
    cases letter
  rw [readEquation?, Text.cut?, if_neg (noEquals letters.1), Text.cut?,
    if_neg (noEquals letters.2)]
  cases Text.cut? '=' rest with
  | none => rfl
  | some sides =>
      simp only [Option.map_some, Option.bind_some, readTerms?_of_letters unread letters]
      cases readFinite? (α := α) sides.2 <;> rfl

/-- A text that begins with two letters is no system, unless the first can begin a number. -/
theorem readSystem_of_letters {c d : Char}
    (unread : ∀ rest, Numeral.read? (α := α) (c :: rest) = none)
    (letters : c.isAlpha = true ∧ d.isAlpha = true) {front : List Char}
    (blank : Text.IsBlankText front) (rest : List Char) :
    readSystem (α := α) (front ++ c :: d :: rest) = .error .unreadable := by
  have noBreak {e : Char} (letter : e.isAlpha = true) : (e == ';') = false := by
    rw [beq_eq_false_iff_ne]
    rintro rfl
    cases letter
  have bare : Text.removeBlanks (front ++ c :: d :: rest) = c :: d :: Text.removeBlanks rest := by
    rw [Text.removeBlanks_append, Text.removeBlanks_of_isBlankText blank]
    simp [Text.removeBlanks, isBlank_of_isAlpha letters.1, isBlank_of_isAlpha letters.2]
  obtain ⟨first, others, split⟩ := List.exists_cons_of_ne_nil
    (Text.pieces_ne_nil (· == ';') (Text.removeBlanks rest))
  have pieces : Text.nonemptyPieces (· == ';') (c :: d :: Text.removeBlanks rest) =
      (c :: d :: first) :: others.filter fun piece => !piece.isEmpty := by
    simp [Text.nonemptyPieces, Text.pieces, noBreak letters.1, noBreak letters.2, split]
  rw [readSystem, bare, pieces]
  simp only [List.mapM_cons, readEquation?_of_letters unread letters]
  rfl

/-! ### The command words -/

/-- The words that stand for a command on systems and matrices. -/
def commandWords : List (List Char) :=
  ["qr".toList, "ortho".toList, "eigen".toList, "cramer".toList]

/-- Every command word begins with two letters, of which the first begins no number. -/
theorem exists_letters_of_mem_commandWords {word : List Char} (mem : word ∈ commandWords) :
    ∃ c d rest, word = c :: d :: rest ∧ (c.isAlpha = true ∧ d.isAlpha = true) ∧
      c.toLower ≠ 'n' ∧ c.toLower ≠ 'i' := by
  simp only [commandWords, List.mem_cons, List.not_mem_nil, or_false] at mem
  obtain rfl | rfl | rfl | rfl := mem
  · exact ⟨'q', 'r', [], rfl, by decide⟩
  · exact ⟨'o', 'r', ['t', 'h', 'o'], rfl, by decide⟩
  · exact ⟨'e', 'i', ['g', 'e', 'n'], rfl, by decide⟩
  · exact ⟨'c', 'r', ['a', 'm', 'e', 'r'], rfl, by decide⟩

/-- In front of a blank, a command word is recognised as itself and as no other. -/
theorem commandArgument?_commandWord {word other : List Char} (mem : word ∈ commandWords)
    (otherMem : other ∈ commandWords) (text : List Char) :
    Text.commandArgument? word (other ++ ' ' :: text) =
      if word = other then some (Text.trim text) else none := by
  have heads : ∀ word ∈ commandWords, ∀ other ∈ commandWords,
      word.head? = other.head? → word = other := by decide
  obtain ⟨c, d, rest, rfl, letters, -⟩ := exists_letters_of_mem_commandWords mem
  obtain ⟨c', d', rest', rfl, letters', -⟩ := exists_letters_of_mem_commandWords otherMem
  split
  · rename_i same
    rw [← same]
    exact Text.commandArgument?_blank (isBlank_of_isAlpha letters.1) _ _
  · rename_i different
    exact Text.commandArgument?_other (isBlank_of_isAlpha letters'.1)
      (fun sameHead => different (heads _ mem _ otherMem (congrArg some sameHead))) _ _

/-- A text that a command word is recognised in is no system. -/
theorem readSystem_of_command {word text argument : List Char} (mem : word ∈ commandWords)
    (command : Text.commandArgument? word text = some argument) :
    readSystem (α := Float) text = .error .unreadable := by
  obtain ⟨c, d, rest, rfl, letters, noWord⟩ := exists_letters_of_mem_commandWords mem
  obtain ⟨front, behind, blank, -, rfl, -⟩ :=
    (Text.commandArgument?_eq_some_iff (isBlank_of_isAlpha letters.1)).mp command
  rw [List.append_assoc]
  exact readSystem_of_letters (read?_of_letter letters.1 noWord) letters blank (rest ++ behind)

/-- A text with none of the command words in front is solved by elimination. -/
theorem respond_of_no_command {text : List Char}
    (noCommand : ∀ word ∈ commandWords, Text.commandArgument? word text = none)
    (config : Config α) :
    respond config text = solveByElimination config text ∧
      solveSystem config text = solveByElimination config text := by
  have cramer : solveSystem config text = solveByElimination config text := by
    rw [solveSystem, noCommand "cramer".toList (by simp [commandWords])]
  refine ⟨?_, cramer⟩
  rw [respond, noCommand "qr".toList (by simp [commandWords]),
    noCommand "ortho".toList (by simp [commandWords]),
    noCommand "eigen".toList (by simp [commandWords]), ← cramer]
  rfl

theorem readSystem_trim (text : List Char) :
    readSystem (α := α) (Text.trim text) = readSystem text := by
  rw [readSystem, readSystem, Text.removeBlanks_trim]

theorem solveSystem_cramer (config : Config α) (text : List Char) :
    solveSystem config ("cramer ".toList ++ text) = solveByCramersRule config text := by
  have cramer : "cramer".toList ∈ commandWords := by simp [commandWords]
  have command := commandArgument?_commandWord cramer cramer text
  rw [if_pos rfl] at command
  rw [solveSystem, show "cramer ".toList ++ text = "cramer".toList ++ ' ' :: text from rfl, command]
  simp only [solveByCramersRule, readSystem_trim]

/-- No command word stands in front of a system: whatever a word is recognised in cannot be
read as one. So every system that can be read is solved by elimination, as it stands, and by
Cramer's rule behind the word for it. -/
theorem systems_are_no_commands (text : List Char) :
    (∀ word ∈ commandWords, ∀ argument, Text.commandArgument? word text = some argument →
      readSystem (α := Float) text = .error .unreadable) ∧
    ∀ system : System Float, readSystem text = .ok system → ∀ config : Config Float,
      respond config text =
        (gaussJordan system.coefficients system.constants config.pivotTolerance).map .vector ∧
      solveSystem config text =
        (gaussJordan system.coefficients system.constants config.pivotTolerance).map .vector ∧
      solveSystem config ("cramer ".toList ++ text) =
        (cramersRule system.coefficients system.constants config.pivotTolerance).map .vector := by
  refine ⟨fun word mem argument => readSystem_of_command mem, fun system read config => ?_⟩
  have noCommand : ∀ word ∈ commandWords, Text.commandArgument? word text = none :=
    fun word mem => Option.eq_none_iff_forall_ne_some.mpr fun argument command => by
      rw [readSystem_of_command mem command] at read
      cases read
  obtain ⟨responds, solves⟩ := respond_of_no_command noCommand config
  refine ⟨?_, ?_, ?_⟩
  · rw [responds, solveByElimination, read]
    rfl
  · rw [solves, solveByElimination, read]
    rfl
  · rw [solveSystem_cramer, solveByCramersRule, read]
    rfl

/-- The unknowns `q` and `r` make a system, and the word `qr` a command. -/
theorem systems_are_no_commands_letters :
    readSystem (α := Float) " qr [1, 2; 3, 4]".toList = .error .unreadable ∧
    ∃ system : System Float, readSystem "q + r = 3; q - r = 1".toList = .ok system ∧
      system.size = 2 ∧ ∀ config : Config Float,
        respond config "q + r = 3; q - r = 1".toList =
          (gaussJordan system.coefficients system.constants config.pivotTolerance).map .vector := by
  obtain ⟨system, read, size⟩ := exists_readSystem_of_any "q + r = 3; q - r = 1".toList
    (fun system => system.size = 2) (by decide +kernel)
  exact ⟨(systems_are_no_commands _).1 "qr".toList (by simp [commandWords]) "[1, 2; 3, 4]".toList
      (by decide +kernel),
    system, read, size, fun config => ((systems_are_no_commands _).2 system read config).1⟩

end Calculator.Linear
