import Calculator.Proofs.Expression.Unmentioned
import Calculator.Proofs.Linear.SystemRoundTrip

/-!
Reading printed tokens.

The tokens of a text, printed with a space between any two, are read as the same tokens. Every
word of a text is one in which the scan finds nothing to cut off (`IsSettled`), a number is
read back from its text, and what a symbol stands for depends on the token in front of it,
which is the same. Only the text of a number may differ from the word it was read from, so
this text must not have a binary symbol in it; with the built-in operators it never does.
Main statement: `tokensOf_printTokens`.
-/

namespace Calculator.Expression

variable {symbols : List (List Char)}

/-! ### Words in which nothing is cut off -/

/-- A word that the scan leaves whole: a parenthesis, a symbol that is found in its own text,
or a word without parentheses and symbols. -/
inductive IsSettled (symbols : List (List Char)) : List Char → Prop where
  | parenthesis {c : Char} : isParenthesis c = true → IsSettled symbols [c]
  | symbol {word : List Char} : symbolAt? symbols word = some word →
      (∀ c ∈ word.head?, isParenthesis c = false) → IsSettled symbols word
  | plain {word : List Char} : (∀ c ∈ word, isParenthesis c = false) →
      (∀ symbol ∈ symbols, symbol ≠ [] → ¬ symbol <:+: word) → IsSettled symbols word

theorem IsSettled.words_spaced {word : List Char} (settled : IsSettled symbols word)
    (nonempty : word ≠ []) (blankFree : ∀ c ∈ word, Text.isBlank c = false) :
    Text.words (spaced symbols word) = [word] := by
  cases settled with
  | parenthesis isParenthesis =>
      rw [spaced_parenthesis isParenthesis, words_between_blanks nonempty blankFree]
  | symbol found plain =>
      rw [spaced_of_symbolAt? found plain, words_between_blanks nonempty blankFree]
  | plain noParenthesis absent =>
      rw [spaced_of_absent noParenthesis absent, Text.words_of_not_blank nonempty blankFree]

/-- A symbol that is found at the start of a text is found in its own text. -/
theorem symbolAt?_self {text symbol : List Char} (found : symbolAt? symbols text = some symbol) :
    symbolAt? symbols symbol = some symbol := by
  obtain ⟨nonempty, split⟩ := eq_append_of_symbolAt? found
  have start : symbol <+: text := ⟨_, split.symm⟩
  obtain ⟨-, earlier, later, whole, rejected⟩ := List.find?_eq_some_iff_append.mp found
  refine List.find?_eq_some_iff_append.mpr ⟨by simp [nonempty], earlier, later, whole, ?_⟩
  intro other mem
  have notHere := rejected other mem
  simp only [Bool.not_eq_true', Bool.eq_false_iff, ne_eq, Bool.and_eq_true,
    List.isPrefixOf_iff_prefix] at notHere ⊢
  exact fun starts => notHere ⟨starts.1, starts.2.trans start⟩

/-- Neither a parenthesis nor a symbol begins within `front`, with `behind` following it. -/
structure IsQuiet (symbols : List (List Char)) (front behind : List Char) : Prop where
  noParenthesis : ∀ c ∈ front, isParenthesis c = false
  noSymbol : ∀ place, place <:+ front → place ≠ [] → symbolAt? symbols (place ++ behind) = none

theorem isQuiet_nil (behind : List Char) : IsQuiet symbols [] behind :=
  ⟨fun _ mem => (nomatch mem),
    fun _ suffix nonempty => absurd (List.suffix_nil.mp suffix) nonempty⟩

/-- A character that is left where it is joins what is quiet in front of it. -/
theorem IsQuiet.concat {front rest : List Char} {c : Char}
    (quiet : IsQuiet symbols front (c :: rest)) (plain : isParenthesis c = false)
    (nothing : symbolAt? symbols (c :: rest) = none) : IsQuiet symbols (front ++ [c]) rest := by
  constructor
  · intro d mem
    rcases List.mem_append.mp mem with inFront | last
    · exact quiet.noParenthesis d inFront
    · exact List.mem_singleton.mp last ▸ plain
  · intro place suffix nonempty
    obtain rfl | ⟨start, rfl, inFront⟩ := List.suffix_concat_iff.mp suffix
    · exact absurd rfl nonempty
    · rw [List.append_assoc, List.singleton_append]
      rcases eq_or_ne start [] with rfl | more
      · exact nothing
      · exact quiet.noSymbol start inFront more

/-- The words of what is quiet are left whole. -/
theorem IsQuiet.isSettled {front behind word : List Char} (quiet : IsQuiet symbols front behind)
    (mem : word ∈ Text.words front) : IsSettled symbols word := by
  have inFront := infix_of_mem_words mem
  refine .plain (fun c inWord => quiet.noParenthesis c (inFront.subset inWord)) ?_
  intro symbol inSymbols nonempty inWord
  obtain ⟨before, rest, split⟩ := inWord.trans inFront
  have place : symbol ++ rest <:+ front := ⟨before, by simpa using split⟩
  have nothing := quiet.noSymbol _ place (by simp [nonempty])
  refine symbolAt?_eq_none_iff.mp nothing symbol inSymbols nonempty ?_
  exact ⟨rest ++ behind, by simp⟩

/-- The scan leaves its words whole, and so does a second scan. -/
theorem isSettled_of_mem_words
    (blankFree : ∀ symbol ∈ symbols, ∀ c ∈ symbol, Text.isBlank c = false)
    {front text word : List Char} (quiet : IsQuiet symbols front text)
    (mem : word ∈ Text.words (front ++ spaced symbols text)) : IsSettled symbols word := by
  rw [spaced] at mem
  fun_induction scan symbols text generalizing front with
  | case1 =>
      rw [List.flatMap_nil, List.append_nil] at mem
      exact quiet.isSettled mem
  | case2 c rest parenthesis ih =>
      rw [words_append_apart] at mem
      have visible : ∀ d ∈ [c], Text.isBlank d = false := by
        simpa using not_isBlank_of_isParenthesis parenthesis
      rw [Text.words_of_not_blank (List.cons_ne_nil _ _) visible] at mem
      rcases List.mem_append.mp mem with inFront | mem
      · exact quiet.isSettled inFront
      · rcases List.mem_append.mp mem with inPiece | inRest
        · exact List.mem_singleton.mp inPiece ▸ .parenthesis parenthesis
        · exact ih (isQuiet_nil rest) inRest
  | case3 c rest plain symbol found ih =>
      rw [words_append_apart] at mem
      have inSymbols := List.mem_of_find?_eq_some found
      obtain ⟨nonempty, split⟩ := eq_append_of_symbolAt? found
      rw [Text.words_of_not_blank nonempty (blankFree symbol inSymbols)] at mem
      rcases List.mem_append.mp mem with inFront | mem
      · exact quiet.isSettled inFront
      · rcases List.mem_append.mp mem with inPiece | inRest
        · obtain rfl := List.mem_singleton.mp inPiece
          refine .symbol (symbolAt?_self found) fun d atHead => ?_
          obtain ⟨tail, rfl⟩ := List.head?_eq_some_iff.mp atHead
          rw [List.cons_append] at split
          exact (List.cons.inj split).1 ▸ Bool.eq_false_iff.mpr plain
        · exact ih (isQuiet_nil _) inRest
  | case4 c rest plain nothing ih =>
      have joined : front ++ (Stretch.kept c :: scan symbols rest).flatMap Stretch.spaced =
          front ++ [c] ++ (scan symbols rest).flatMap Stretch.spaced := by
        simp [Stretch.spaced]
      rw [joined] at mem
      exact ih (quiet.concat (Bool.eq_false_iff.mpr plain) nothing) mem

/-! ### Tokens and their words -/

section Tokens

variable {α : Type} [Numeral α] {registry : Registry α}

def Token.isNumber : Token α → Bool
  | .number _ => true
  | .identifier _ | .operator _ | .function _ | .openParen | .closeParen => false

/-- The text of a token is its word, unless it is a number. -/
theorem text_classify (registry : Registry α) (followsOperand : Bool) (word : List Char) :
    (classify registry followsOperand word).isNumber = true ∨
      (classify registry followsOperand word).text = word := by
  obtain ⟨value, -, token⟩ | ⟨opening, token⟩ | ⟨closing, token⟩ | token | token | token :=
    classify_cases registry followsOperand word
  all_goals rw [token]
  · exact .inl rfl
  · exact .inr opening.symm
  · exact .inr closing.symm
  all_goals exact .inr rfl

/-- The text of tokens, with a space between any two. -/
def printTokens (tokens : List (Token α)) : List Char :=
  List.intercalate [' '] (tokens.map Token.text)

/-- The words of printed tokens are the texts of the tokens, if nothing is cut off in them. -/
theorem words_spaced_printTokens
    (blankFree : ∀ symbol ∈ symbols, ∀ c ∈ symbol, Text.isBlank c = false)
    {tokens : List (Token α)} (settled : ∀ token ∈ tokens, IsSettled symbols token.text)
    (whole : ∀ token ∈ tokens, token.text ≠ [] ∧ ∀ c ∈ token.text, Text.isBlank c = false) :
    Text.words (spaced symbols (printTokens tokens)) = tokens.map Token.text := by
  have texts : Text.words (printTokens tokens) = tokens.map Token.text := by
    have noBlank : ∀ text ∈ tokens.map Token.text, ∀ c ∈ text, Text.isBlank c = false :=
      List.forall_mem_map.mpr fun token mem => (whole token mem).2
    rw [printTokens, Text.words, Text.nonemptyPieces_intercalate (by decide) noBlank,
      List.filter_eq_self]
    refine List.forall_mem_map.mpr fun token mem => ?_
    simp [(whole token mem).1]
  have each : ∀ word ∈ tokens.map Token.text,
      Text.words (spaced symbols word) = [word] :=
    List.forall_mem_map.mpr fun token mem =>
      (settled token mem).words_spaced (whole token mem).1 (whole token mem).2
  rw [words_spaced blankFree, texts, List.flatMap_congr each]
  simp

end Tokens

/-! ### Reading the tokens again -/

section ReadsBack

open Linear (ReadsBack isSumCharacter not_isBlank_of_isSumCharacter)

variable {α : Type} [Arithmetic α] [Numeral α] [ReadsBack α] {registry : Registry α}

theorem not_isParenthesis_of_mem_write {value : α} {c : Char} (mem : c ∈ Numeral.write value) :
    isParenthesis c = false := by
  have inSum := ReadsBack.mem_write value c mem
  rw [isParenthesis, Bool.or_eq_false_iff, beq_eq_false_iff_ne, beq_eq_false_iff_ne]
  constructor <;> rintro rfl <;> cases inSum

theorem isName_write (value : α) : IsName (Numeral.write value) := by
  constructor <;> intro same
  · have mem : '(' ∈ Numeral.write value := same ▸ List.mem_cons_self
    cases not_isParenthesis_of_mem_write mem
  · have mem : ')' ∈ Numeral.write value := same ▸ List.mem_cons_self
    cases not_isParenthesis_of_mem_write mem

/-- In the same place, the text of a token stands for the token. -/
theorem classify_text (followsOperand : Bool) (word : List Char) :
    classify registry followsOperand (classify registry followsOperand word).text =
      classify registry followsOperand word := by
  rcases text_classify registry followsOperand word with number | same
  · cases token : classify registry followsOperand word with
    | number value =>
        exact classify_number (isName_write value) (ReadsBack.read?_write value) followsOperand
    | _ =>
        rw [token] at number
        cases number
  · rw [same]

theorem classifyWords_text (followsOperand : Bool) (words : List (List Char)) :
    classifyWords registry followsOperand
        ((classifyWords registry followsOperand words).map Token.text) =
      classifyWords registry followsOperand words := by
  induction words generalizing followsOperand with
  | nil => rfl
  | cons word rest ih =>
      rw [classifyWords, List.map_cons, classifyWords, classify_text, ih]

/-- No binary symbol occurs in the text of a number. -/
def Registry.SparesNumbers (registry : Registry α) (tokens : List (Token α)) : Prop :=
  ∀ token ∈ tokens, token.isNumber = true →
    ∀ symbol ∈ registry.scanOrder, symbol ≠ [] → ¬ symbol <:+: token.text

/-- The text of a number has no parenthesis, no blank and at least one character. -/
theorem isSettled_write {value : α}
    (absent : ∀ symbol ∈ symbols, symbol ≠ [] → ¬ symbol <:+: Numeral.write value) :
    IsSettled symbols (Numeral.write value) ∧ Numeral.write value ≠ [] ∧
      ∀ c ∈ Numeral.write value, Text.isBlank c = false :=
  ⟨.plain (fun _ mem => not_isParenthesis_of_mem_write mem) absent,
    ReadsBack.write_ne_nil value,
    fun c mem => not_isBlank_of_isSumCharacter (ReadsBack.mem_write value c mem)⟩

/-- Printed tokens are read as the same tokens. -/
theorem tokensOf_printTokens_of_spares
    (blankFree : ∀ symbol ∈ registry.scanOrder, ∀ c ∈ symbol, Text.isBlank c = false)
    {text : List Char} (spares : registry.SparesNumbers (tokensOf registry text)) :
    tokensOf registry (printTokens (tokensOf registry text)) = tokensOf registry text := by
  have each : ∀ token ∈ tokensOf registry text, IsSettled registry.scanOrder token.text ∧
      token.text ≠ [] ∧ ∀ c ∈ token.text, Text.isBlank c = false := by
    intro token mem
    obtain ⟨word, inWords, follows, isWord⟩ := exists_classify_of_mem mem
    rcases text_classify registry follows word with number | same
    · rw [← isWord] at number
      cases token with
      | number value => exact isSettled_write (spares _ mem number)
      | _ => cases number
    · rw [isWord, same]
      exact ⟨isSettled_of_mem_words blankFree (isQuiet_nil text) inWords,
        Text.mem_words inWords⟩
  have words := words_spaced_printTokens blankFree (fun token mem => (each token mem).1)
    fun token mem => (each token mem).2
  rw [tokensOf, words]
  exact classifyWords_text false _

end ReadsBack

/-! ### Numbers beside the built-in operators -/

/-- A word that is a number was read as this number. -/
theorem read?_of_classify {α : Type} [Numeral α] {registry : Registry α} {follows : Bool}
    {word : List Char} {value : α} (isWord : classify registry follows word = .number value) :
    Numeral.read? word = some value := by
  obtain ⟨other, read, token⟩ | ⟨-, token⟩ | ⟨-, token⟩ | token | token | token :=
    classify_cases registry follows word
  all_goals
    rw [token] at isWord
    cases isWord
  exact read

section Builtin

open Registry

/-- A number between built-in operators has no minus sign, as this is cut off. -/
theorem not_mem_of_isSettled {config : Config Float} {word : List Char} {value : Float}
    (settled : IsSettled (Builtin.registry config).scanOrder word)
    (read : Double.read? word = some value) : '-' ∉ word := by
  cases settled with
  | @parenthesis c isParenthesis =>
      intro mem
      cases List.mem_singleton.mp mem
      cases isParenthesis
  | symbol found plain =>
      have unread : ∀ symbol ∈ builtinSymbols, Double.read? symbol = none := by decide
      have inSymbols := mem_scanOrder_builtin.mp (List.mem_of_find?_eq_some found)
      rw [unread word inSymbols] at read
      cases read
  | plain noParenthesis absent =>
      intro mem
      have minus : ['-'] ∈ (Builtin.registry config).scanOrder :=
        mem_scanOrder_builtin.mpr (by decide)
      exact absent _ minus (List.cons_ne_nil _ _) ((List.singleton_infix_iff _ _).mpr mem)

/-- No built-in symbol occurs in a number that is not negative. -/
theorem not_infix_write {symbol : List Char} {value : Float} (builtin : symbol ∈ builtinSymbols)
    (nonnegative : Double.isNegative value = false) : ¬ symbol <:+: Double.write value := by
  intro occurs
  have telling : ∀ symbol ∈ builtinSymbols, ∃ c ∈ symbol,
      c.isDigit = false ∧ c ≠ '.' ∧ c.isAlpha = false := by
    simp [builtinSymbols]
  obtain ⟨c, inSymbol, noDigit, noPoint, noLetter⟩ := telling symbol builtin
  rcases Double.mem_write (occurs.subset inSymbol) with digit | point | letter | ⟨-, negative⟩
  · rw [noDigit] at digit
    cases digit
  · exact noPoint point
  · rw [noLetter] at letter
    cases letter
  · rw [nonnegative] at negative
    cases negative

theorem isBlank_builtin {config : Config Float} : ∀ symbol ∈ (Builtin.registry config).scanOrder,
    ∀ c ∈ symbol, Text.isBlank c = false :=
  fun symbol mem c inSymbol => (hasPlainSymbols_builtin config symbol mem c inSymbol).1

/-- With the built-in operators, no binary symbol ever occurs in the text of a number. -/
theorem sparesNumbers_builtin (config : Config Float) (text : List Char) :
    (Builtin.registry config).SparesNumbers (tokensOf (Builtin.registry config) text) := by
  intro token mem number symbol inSymbols _
  obtain ⟨word, inWords, follows, isWord⟩ := exists_classify_of_mem mem
  cases token with
  | number value =>
      have read := read?_of_classify isWord.symm
      have settled := isSettled_of_mem_words isBlank_builtin (isQuiet_nil text) inWords
      exact not_infix_write (mem_scanOrder_builtin.mp inSymbols)
        (Double.isNegative_of_read? read (not_mem_of_isSettled settled read))
  | _ => cases number

end Builtin

/-! ### Reading, ordering and evaluating printed tokens -/

/-- Reading is stable under printing. If no binary symbol has a blank in it and none occurs in
the text of a number of an expression, then the tokens of the expression, printed with a space
between any two, are read as the same tokens, ordered alike and evaluated alike. The built-in
operators meet both conditions for every expression. -/
theorem tokensOf_printTokens :
    (∀ (registry : Registry Float) (text : List Char),
      (∀ symbol ∈ registry.scanOrder, ∀ c ∈ symbol, Text.isBlank c = false) →
      registry.SparesNumbers (tokensOf registry text) →
        let printed := printTokens (tokensOf registry text)
        tokensOf registry printed = tokensOf registry text ∧
          postfixOrder registry printed = postfixOrder registry text ∧
          ∀ context, evaluate registry context printed = evaluate registry context text) ∧
    ∀ (config : Config Float) (text : List Char),
      (∀ symbol ∈ (Builtin.registry config).scanOrder, ∀ c ∈ symbol, Text.isBlank c = false) ∧
        (Builtin.registry config).SparesNumbers (tokensOf (Builtin.registry config) text) := by
  constructor
  · intro registry text blankFree spares printed
    have tokens : tokensOf registry printed = tokensOf registry text :=
      tokensOf_printTokens_of_spares blankFree spares
    have order : postfixOrder registry printed = postfixOrder registry text := by
      rw [postfixOrder, postfixOrder, tokens]
    refine ⟨tokens, order, fun context => ?_⟩
    rw [evaluate, evaluate, order]
  · exact fun config text => ⟨isBlank_builtin, sparesNumbers_builtin config text⟩

/-- Symbols that overlap and one made of letters: the second sign behind `**` is found again. -/
theorem tokensOf_printTokens_overlapping :
    let sign (symbol : String) : Operator Float := Builtin.between symbol .exponential Builtin.raise
    let registry := Registry.empty.registerAll [sign "*", sign "**", sign "*-", sign "mod"]
    let text := "7.50mod x***-(2".toList
    (∀ symbol ∈ registry.scanOrder, ∀ c ∈ symbol, Text.isBlank c = false) ∧
      registry.SparesNumbers (tokensOf registry text) ∧
      printTokens (tokensOf registry text) = "7.5 mod x ** *- ( 2".toList ∧
      tokensOf registry "7.5 mod x ** *- ( 2".toList = tokensOf registry text := by
  intro sign registry text
  have plain : registry.HasPlainSymbols := by decide +kernel
  have blankFree : ∀ symbol ∈ registry.scanOrder, ∀ c ∈ symbol, Text.isBlank c = false :=
    fun symbol mem c inSymbol => (plain symbol mem c inSymbol).1
  have spares : registry.SparesNumbers (tokensOf registry text) := by
    unfold Registry.SparesNumbers
    decide +kernel
  have printed : printTokens (tokensOf registry text) = "7.5 mod x ** *- ( 2".toList := by
    decide +kernel
  have same := (tokensOf_printTokens.1 registry text blankFree spares).1
  rw [printed] at same
  exact ⟨blankFree, spares, printed, same⟩

end Calculator.Expression
