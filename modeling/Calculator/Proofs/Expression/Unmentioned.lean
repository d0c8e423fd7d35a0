import Calculator.Proofs.Expression.Conversion
import Calculator.Proofs.Expression.Registration
import Mathlib.Data.List.TakeWhile

/-!
Operators that a text does not mention.

What an expression means depends on the operators of its words only. A symbol that does not
occur in a text is never found by the scan (`scan_register`) and is none of its words,
because every word of the spaced text is a stretch of the text itself
(`infix_of_mem_words_spaced`). Two registries that agree on the words classify, convert and
evaluate alike (`AgreeOn`). Main statement: `evaluate_register_of_absent`.
-/

namespace Calculator.Expression

variable {α : Type} {first second : Registry α}

/-! ### Words are stretches of the text -/

/-- A word of a text occurs in it. -/
theorem infix_of_mem_words {text word : List Char} (mem : word ∈ Text.words text) :
    word <:+: text := by
  by_cases whole : ∀ c ∈ text, Text.isBlank c = false
  · rcases eq_or_ne text [] with rfl | nonempty
    · cases mem
    · rw [Text.words_of_not_blank nonempty whole] at mem
      exact (List.mem_singleton.mp mem) ▸ List.infix_refl _
  · obtain ⟨c, inText, blank⟩ : ∃ c ∈ text, Text.isBlank c = true := by
      simpa using whole
    obtain ⟨before, behind, split⟩ := List.append_of_mem inText
    have shorter : before.length < text.length ∧ behind.length < text.length := by
      rw [split, List.length_append, List.length_cons]
      omega
    rw [split, Text.words_append_cons blank] at mem
    rw [split]
    rcases List.mem_append.mp mem with inBefore | inBehind
    · exact (infix_of_mem_words inBefore).trans (List.prefix_append _ _).isInfix
    · exact (infix_of_mem_words inBehind).trans
        ((List.suffix_cons _ _).trans (List.suffix_append _ _)).isInfix
termination_by text.length
decreasing_by exacts [shorter.1, shorter.2]

/-- A piece that stands apart is cut off on both sides. -/
theorem words_append_apart (front piece : List Char) (rest : List Stretch) :
    Text.words (front ++ (Stretch.apart piece :: rest).flatMap Stretch.spaced) =
      Text.words front ++ (Text.words piece ++ Text.words (rest.flatMap Stretch.spaced)) := by
  have blank : Text.isBlank ' ' = true := by decide
  simp only [List.flatMap_cons, Stretch.spaced, List.cons_append, List.append_assoc,
    List.nil_append]
  rw [Text.words_append_cons blank, Text.words_append_cons blank]

/-- A word of spaced stretches occurs in the text they cover. Characters left where they are
join `front`, the word that has begun; a piece that stands apart ends it. -/
theorem infix_of_mem_words_stretches {stretches : List Stretch} {front word : List Char}
    (mem : word ∈ Text.words (front ++ stretches.flatMap Stretch.spaced)) :
    word <:+: front ++ stretches.flatMap Stretch.text := by
  induction stretches generalizing front with
  | nil => exact infix_of_mem_words mem
  | cons stretch rest ih =>
      cases stretch with
      | kept c =>
          have joined : ∀ tail : List Char, front ++ ([c] ++ tail) = front ++ [c] ++ tail := by
            simp
          simp only [List.flatMap_cons, Stretch.spaced, Stretch.text, joined] at mem ⊢
          exact ih mem
      | apart piece =>
          have covered : front ++ (Stretch.apart piece :: rest).flatMap Stretch.text =
              front ++ (piece ++ rest.flatMap Stretch.text) := rfl
          rw [words_append_apart] at mem
          rw [covered]
          rcases List.mem_append.mp mem with inFront | mem
          · exact (infix_of_mem_words inFront).trans (List.prefix_append _ _).isInfix
          · rcases List.mem_append.mp mem with inPiece | inRest
            · exact (infix_of_mem_words inPiece).trans (List.infix_append' _ _ _)
            · have inRest' : word <:+: rest.flatMap Stretch.text := @ih [] inRest
              exact inRest'.trans
                ((List.suffix_append _ _).trans (List.suffix_append _ _)).isInfix

/-- A word of the spaced text occurs in the text. -/
theorem infix_of_mem_words_spaced {symbols : List (List Char)} {text word : List Char}
    (mem : word ∈ Text.words (spaced symbols text)) : word <:+: text := by
  have occurs : word <:+: [] ++ (scan symbols text).flatMap Stretch.text :=
    infix_of_mem_words_stretches mem
  rwa [List.nil_append, flatMap_text_scan] at occurs

/-! ### The scan -/

/-- Lists of symbols in which the same is found at every place of a text scan it alike. -/
theorem scan_congr {symbols others : List (List Char)} {text : List Char}
    (same : ∀ place, place <:+ text → symbolAt? symbols place = symbolAt? others place) :
    scan symbols text = scan others text := by
  fun_induction scan symbols text with
  | case1 => rw [scan]
  | case2 c rest parenthesis ih =>
      rw [scan, if_pos parenthesis,
        ih fun place behind => same place (behind.trans (List.suffix_cons _ _))]
  | case3 c rest plain symbol found ih =>
      rw [scan, if_neg plain, ← same _ List.suffix_rfl, found]
      dsimp only
      rw [ih fun place behind => same place
        (behind.trans ((List.drop_suffix _ _).trans (List.suffix_cons _ _)))]
  | case4 c rest plain nothing ih =>
      rw [scan, if_neg plain, ← same _ List.suffix_rfl, nothing]
      dsimp only
      rw [ih fun place behind => same place (behind.trans (List.suffix_cons _ _))]

/-- Adding an operator does not change which symbol is the first to pass a test that its own
fails. -/
theorem OperatorTable.find?_symbols_insert {p : List Char → Bool} {operator : Operator α}
    (rejected : ¬ p operator.symbol = true) (table : OperatorTable α) :
    (table.insert operator).symbols.find? p = table.symbols.find? p := by
  simp only [symbols, insert]
  induction table.operators with
  | nil => simp [insertOperator, rejected]
  | cons other rest ih =>
      rw [insertOperator]
      split
      · rw [List.map_cons, List.find?_cons_of_neg rejected]
      · split
        · rename_i replaced
          rw [List.map_cons, List.map_cons, replaced, List.find?_cons_of_neg rejected]
        · rw [List.map_cons, List.map_cons, List.find?_cons, List.find?_cons, ih]

/-- A symbol that does not occur in a text does not change the scan. -/
theorem scan_register {registry : Registry α} {operator : Operator α} {text : List Char}
    (absent : ¬ operator.symbol <:+: text) :
    scan (registry.register operator).scanOrder text = scan registry.scanOrder text := by
  apply scan_congr
  intro place behind
  have rejected : ¬ (!operator.symbol.isEmpty && operator.symbol.isPrefixOf place) = true := by
    rw [Bool.and_eq_true, List.isPrefixOf_iff_prefix]
    exact fun starts => absent (starts.2.isInfix.trans behind.isInfix)
  cases own : operator.arity with
  | unary =>
      rw [Registry.register, own]
      rfl
  | binary =>
      rw [Registry.register, own]
      exact OperatorTable.find?_symbols_insert rejected registry.binary

/-! ### Registries that agree -/

/-- Two registries have the same operators for a symbol. -/
def AgreeOn (first second : Registry α) (symbol : List Char) : Prop :=
  ∀ arity, first.get? symbol arity = second.get? symbol arity

def Token.symbol? : Token α → Option (List Char)
  | .operator symbol | .function symbol => some symbol
  | .number _ | .identifier _ | .openParen | .closeParen => none

/-- Two registries have the same operators for all symbols of a sequence. -/
def AgreeOnSymbols (first second : Registry α) (tokens : List (Token α)) : Prop :=
  ∀ token ∈ tokens, ∀ symbol ∈ token.symbol?, AgreeOn first second symbol

theorem agreeOn_register {registry : Registry α} {operator : Operator α} {symbol : List Char}
    (other : operator.symbol ≠ symbol) : AgreeOn (registry.register operator) registry symbol := by
  intro arity
  rw [Registry.get?_register, if_neg fun same => other same.1]

theorem AgreeOn.binaryPrecedence {symbol : List Char} (agree : AgreeOn first second symbol) :
    first.binaryPrecedence symbol = second.binaryPrecedence symbol := by
  rw [Registry.binaryPrecedence, Registry.binaryPrecedence, agree .binary]

theorem AgreeOn.apply {symbol : List Char} (agree : AgreeOn first second symbol)
    (arity : Arity) (operands : List α) :
    first.apply symbol arity operands = second.apply symbol arity operands := by
  rw [Registry.apply, Registry.apply, agree arity]

section Tokens

variable [Numeral α]

theorem AgreeOn.classify {word : List Char} (agree : AgreeOn first second word)
    (followsOperand : Bool) :
    classify first followsOperand word = classify second followsOperand word := by
  simp only [Expression.classify, Registry.isBinary, Registry.isUnary, agree .binary, agree .unary]

theorem classifyWords_congr {words : List (List Char)}
    (agree : ∀ word ∈ words, AgreeOn first second word) (followsOperand : Bool) :
    classifyWords first followsOperand words = classifyWords second followsOperand words := by
  induction words generalizing followsOperand with
  | nil => rfl
  | cons word rest ih =>
      obtain ⟨atWord, atRest⟩ := List.forall_mem_cons.mp agree
      rw [classifyWords, classifyWords, atWord.classify, ih atRest]

/-- What a word can stand for. -/
theorem classify_cases (registry : Registry α) (followsOperand : Bool) (word : List Char) :
    let token := classify registry followsOperand word
    (∃ value, Numeral.read? word = some value ∧ token = .number value) ∨
      word = ['('] ∧ token = .openParen ∨ word = [')'] ∧ token = .closeParen ∨
      token = .operator word ∨ token = .function word ∨ token = .identifier word := by
  unfold classify
  split
  · rename_i opening
    exact .inr (.inl ⟨opening, rfl⟩)
  · split
    · rename_i closing
      exact .inr (.inr (.inl ⟨closing, rfl⟩))
    · split
      · rename_i value read
        exact .inl ⟨value, read, rfl⟩
      · cases registry.isBinary word <;> cases registry.isUnary word <;> cases followsOperand <;>
          simp

/-- The symbol of a token is its word. -/
theorem symbol_classify {registry : Registry α} {followsOperand : Bool}
    {word symbol : List Char} (has : symbol ∈ (classify registry followsOperand word).symbol?) :
    symbol = word := by
  obtain ⟨value, -, token⟩ | ⟨-, token⟩ | ⟨-, token⟩ | token | token | token :=
    classify_cases registry followsOperand word
  all_goals rw [token] at has
  · cases has
  · cases has
  · cases has
  · exact (Option.some.inj has).symm
  · exact (Option.some.inj has).symm
  · cases has

/-- Every token stands for a word. -/
theorem exists_classify_of_mem {registry : Registry α} {words : List (List Char)}
    {followsOperand : Bool} {token : Token α}
    (mem : token ∈ classifyWords registry followsOperand words) :
    ∃ word ∈ words, ∃ follows, token = classify registry follows word := by
  induction words generalizing followsOperand with
  | nil => cases mem
  | cons word rest ih =>
      rcases List.mem_cons.mp mem with rfl | inRest
      · exact ⟨word, List.mem_cons_self, followsOperand, rfl⟩
      · obtain ⟨other, inWords, follows, same⟩ := ih inRest
        exact ⟨other, List.mem_cons_of_mem _ inWords, follows, same⟩

/-- The symbols of the tokens are among the words. -/
theorem symbol_mem_words {registry : Registry α} {words : List (List Char)}
    {followsOperand : Bool} {token : Token α} {symbol : List Char}
    (mem : token ∈ classifyWords registry followsOperand words) (has : symbol ∈ token.symbol?) :
    symbol ∈ words := by
  obtain ⟨word, inWords, follows, rfl⟩ := exists_classify_of_mem mem
  exact symbol_classify has ▸ inWords

end Tokens

/-! ### Converting alike -/

/-- An operator releases the same entries. -/
theorem isReleasedBy_congr {symbol : List Char} {entry : Pending}
    (atSymbol : AgreeOn first second symbol)
    (atEntry : ∀ other ∈ (entry.token : Token α).symbol?, AgreeOn first second other) :
    isReleasedBy first symbol entry = isReleasedBy second symbol entry := by
  have level : entry.precedence? first = entry.precedence? second := by
    cases entry with
    | group => rfl
    | function _ => rfl
    | operator other => exact congrArg some (atEntry other rfl).binaryPrecedence
  rw [isReleasedBy, isReleasedBy, atSymbol.binaryPrecedence, level]

theorem takeWhile_dropWhile_congr {β : Type} {p q : β → Bool} {items : List β}
    (same : ∀ item ∈ items, p item = q item) :
    items.takeWhile p = items.takeWhile q ∧ items.dropWhile p = items.dropWhile q := by
  induction items with
  | nil => exact ⟨rfl, rfl⟩
  | cons item rest ih =>
      obtain ⟨atItem, atRest⟩ := List.forall_mem_cons.mp same
      obtain ⟨taken, dropped⟩ := ih atRest
      rw [List.takeWhile_cons, List.takeWhile_cons, List.dropWhile_cons, List.dropWhile_cons,
        atItem, taken, dropped]
      exact ⟨rfl, rfl⟩

/-- Entries that go on waiting when a group is closed were waiting before. -/
theorem mem_of_closeGroup? {pending released kept : List Pending} {entry : Pending}
    (closed : closeGroup? pending = some (released, kept)) (mem : entry ∈ kept) :
    entry ∈ pending :=
  (perm_of_closeGroup? closed).2.mem_iff.mpr
    (List.mem_cons_of_mem _ (List.mem_append_right _ mem))

theorem AgreeOnSymbols.push {pending : List Pending} (entry : Pending)
    (atEntry : ∀ symbol ∈ (entry.token : Token α).symbol?, AgreeOn first second symbol)
    (waiting : AgreeOnSymbols first second (pending.map Pending.token)) :
    AgreeOnSymbols first second ((entry :: pending).map Pending.token) :=
  List.forall_mem_cons.mpr ⟨atEntry, waiting⟩

/-- Registries that agree on all symbols convert alike. -/
theorem convert_congr {pending : List Pending} {tokens : List (Token α)}
    (waiting : AgreeOnSymbols first second (pending.map Pending.token))
    (coming : AgreeOnSymbols first second tokens) :
    convert first pending tokens = convert second pending tokens := by
  induction tokens generalizing pending with
  | nil => rfl
  | cons token rest ih =>
      obtain ⟨atToken, atRest⟩ := List.forall_mem_cons.mp coming
      cases token with
      | number value => rw [convert, convert, ih waiting atRest]
      | identifier name => rw [convert, convert, ih waiting atRest]
      | function symbol =>
          rw [convert, convert, ih (.push (.function symbol) atToken waiting) atRest]
      | openParen => rw [convert, convert, ih (.push .group atToken waiting) atRest]
      | operator symbol =>
          have same : ∀ entry ∈ pending,
              isReleasedBy first symbol entry = isReleasedBy second symbol entry :=
            fun entry mem => isReleasedBy_congr (atToken symbol rfl)
              (waiting entry.token (List.mem_map_of_mem mem))
          obtain ⟨released, kept⟩ := takeWhile_dropWhile_congr same
          have keptWaiting : AgreeOnSymbols first second
              ((pending.dropWhile (isReleasedBy second symbol)).map Pending.token) :=
            fun other mem => waiting other
              (((List.dropWhile_suffix _).map _).subset mem)
          rw [convert, convert, released, kept,
            ih (.push (.operator symbol) atToken keptWaiting) atRest]
      | closeParen =>
          rw [convert, convert]
          cases closed : closeGroup? pending with
          | none => rfl
          | some parts =>
              have keptWaiting : AgreeOnSymbols first second (parts.2.map Pending.token) := by
                intro other mem
                obtain ⟨entry, inKept, rfl⟩ := List.mem_map.mp mem
                exact waiting _ (List.mem_map_of_mem (mem_of_closeGroup? closed inKept))
              dsimp only
              rw [ih keptWaiting atRest]

/-! ### Evaluating alike -/

variable {context : Context α}

theorem step_congr {stack : List α} {token : Token α}
    (agree : ∀ symbol ∈ token.symbol?, AgreeOn first second symbol) :
    step first context stack token = step second context stack token := by
  cases token with
  | operator symbol =>
      rcases stack with _ | ⟨right, _ | ⟨left, rest⟩⟩
      · rfl
      · rfl
      · rw [step, step, (agree symbol rfl).apply]
  | function symbol =>
      rcases stack with _ | ⟨operand, rest⟩
      · rfl
      · rw [step, step, (agree symbol rfl).apply]
  | number value => rfl
  | identifier name => rfl
  | openParen => rfl
  | closeParen => rfl

/-- Evaluations that process every token alike have the same value. -/
theorem runPostfix_congr_of_step {other : Context α} {tokens : List (Token α)}
    (same : ∀ token ∈ tokens, ∀ stack,
      step first context stack token = step second other stack token) :
    runPostfix first context tokens = runPostfix second other tokens := by
  have run : ∀ stack, tokens.foldlM (step first context) stack =
      tokens.foldlM (step second other) stack := by
    induction tokens with
    | nil => exact fun stack => rfl
    | cons token rest ih =>
        obtain ⟨atToken, atRest⟩ := List.forall_mem_cons.mp same
        intro stack
        rw [List.foldlM_cons, List.foldlM_cons, atToken]
        exact congrArg _ (funext fun after => ih atRest after)
  rw [runPostfix, runPostfix, run]

/-- Registries that agree on all symbols evaluate alike. -/
theorem runPostfix_congr {tokens : List (Token α)}
    (agree : AgreeOnSymbols first second tokens) :
    runPostfix first context tokens = runPostfix second context tokens :=
  runPostfix_congr_of_step fun token mem _ => step_congr (agree token mem)

/-! ### Registering what a text does not mention -/

/-- An operator whose symbol does not occur in a text has no influence on it: registering it,
also over an earlier one, changes neither the tokens of the text nor their postfix order nor
the value in any context. (An empty symbol occurs in every text.) -/
theorem evaluate_register_of_absent [Numeral α] (registry : Registry α) {operator : Operator α}
    {text : List Char} (absent : ¬ operator.symbol <:+: text) :
    tokensOf (registry.register operator) text = tokensOf registry text ∧
    postfixOrder (registry.register operator) text = postfixOrder registry text ∧
    ∀ context, evaluate (registry.register operator) context text =
      evaluate registry context text := by
  have agree : ∀ word ∈ Text.words (spaced registry.scanOrder text),
      AgreeOn (registry.register operator) registry word := by
    intro word mem
    apply agreeOn_register
    rintro rfl
    exact absent (infix_of_mem_words_spaced mem)
  have tokens : tokensOf (registry.register operator) text = tokensOf registry text := by
    rw [tokensOf, spaced, scan_register absent]
    exact classifyWords_congr agree false
  have agreeOnTokens : AgreeOnSymbols (registry.register operator) registry
      (tokensOf registry text) :=
    fun token mem symbol has => agree symbol (symbol_mem_words mem has)
  have order : postfixOrder (registry.register operator) text = postfixOrder registry text := by
    rw [postfixOrder, postfixOrder, tokens]
    exact convert_congr (fun _ mem => absurd mem List.not_mem_nil) agreeOnTokens
  refine ⟨tokens, order, ?_⟩
  intro context
  rw [evaluate, evaluate, order]
  cases converted : postfixOrder registry text with
  | error failure => rfl
  | ok output =>
      apply runPostfix_congr
      intro token mem
      have inSymbols := (convert_eq_ok converted).2.mem_iff.mp mem
      exact agreeOnTokens token (List.mem_of_mem_filter inSymbols)

/-- A new power written with two stars leaves a product written with one alone, and a minus
that is replaced leaves a text without a minus alone. -/
theorem evaluate_register_of_absent_star :
    let registry := Builtin.registry (Config.standard (α := Float))
    let power := Builtin.between "**" .loosest Builtin.raise
    let minus := Builtin.between "-" .unary Builtin.quotient
    ¬ ['*', '*'] <:+: "2*sin(3)* *4".toList ∧ ¬ ['-'] <:+: "2*sin(3)* *4".toList ∧
      tokensOf (registry.register power) "2*sin(3)* *4".toList =
        tokensOf registry "2*sin(3)* *4".toList ∧
      evaluate (registry.register minus) Context.empty "2*sin(3)* *4".toList =
        evaluate registry Context.empty "2*sin(3)* *4".toList := by
  intro registry power minus
  have noPower : ¬ ['*', '*'] <:+: "2*sin(3)* *4".toList := by decide
  have noMinus : ¬ ['-'] <:+: "2*sin(3)* *4".toList := by decide
  exact ⟨noPower, noMinus, (evaluate_register_of_absent registry noPower).1,
    (evaluate_register_of_absent registry noMinus).2.2 Context.empty⟩

end Calculator.Expression
