import Calculator.Expression.Registry
import Calculator.Expression.Spacing
import Calculator.Proofs.Text.Pieces
import Mathlib.Data.List.Find
import Mathlib.Data.List.Infix

/-!
Words of an expression.

Setting operators apart never looks beyond a blank, so the words of the spaced text are
the words of each word on its own (`words_spaced`). A word stays whole if it is a
parenthesis or a binary symbol, or if neither occurs in it (`words_spaced_of_whole`). With longer
symbols first, the symbol found is the longest one (`LongestFirst.prefix_of_symbolAt?`).
-/

namespace Calculator.Expression

variable {symbols : List (List Char)}

theorem spaced_nil : spaced symbols [] = [] := by
  rw [spaced, scan]
  rfl

/-! ### Blanks -/

/-- No symbol reaches over a character that does not occur in it. -/
theorem prefix_append_cons_iff {symbol : List Char} {c : Char} (absent : c ∉ symbol)
    (before behind : List Char) : symbol <+: before ++ c :: behind ↔ symbol <+: before := by
  induction before generalizing symbol with
  | nil =>
      cases symbol with
      | nil => simp
      | cons d symbol =>
          have other : d ≠ c := fun same => absent (same ▸ List.mem_cons_self)
          simp [other]
  | cons first before ih =>
      cases symbol with
      | nil => simp
      | cons d symbol =>
          rw [List.cons_append, List.cons_prefix_cons, List.cons_prefix_cons,
            ih (List.not_mem_of_not_mem_cons absent)]

theorem symbolAt?_append_cons {c : Char} (absent : ∀ symbol ∈ symbols, c ∉ symbol)
    (before behind : List Char) :
    symbolAt? symbols (before ++ c :: behind) = symbolAt? symbols before := by
  apply List.find?_congr
  intro symbol mem
  congr 1
  rw [Bool.eq_iff_iff, List.isPrefixOf_iff_prefix, List.isPrefixOf_iff_prefix]
  exact prefix_append_cons_iff (absent symbol mem) before behind

/-- The scan starts anew at a character that occurs in no symbol. -/
theorem scan_append_of_absent {c : Char} (absent : ∀ symbol ∈ symbols, c ∉ symbol)
    (before behind : List Char) :
    scan symbols (before ++ c :: behind) = scan symbols before ++ scan symbols (c :: behind) := by
  fun_induction scan symbols before with
  | case1 => rfl
  | case2 d rest parenthesis ih =>
      rw [List.cons_append, scan, if_pos parenthesis, ih]
      rfl
  | case3 d rest plain symbol found ih =>
      have start := symbolAt?_append_cons absent (d :: rest) behind
      rw [List.cons_append, found] at start
      have inside : symbol.length - 1 ≤ rest.length := by
        have split := congrArg List.length (eq_append_of_symbolAt? found).2
        simp only [List.length_cons, List.length_append] at split
        omega
      rw [List.cons_append, scan, if_neg plain, start]
      dsimp only
      rw [List.drop_append_of_le_length inside, ih]
      rfl
  | case4 d rest plain nothing ih =>
      have start := symbolAt?_append_cons absent (d :: rest) behind
      rw [List.cons_append, nothing] at start
      rw [List.cons_append, scan, if_neg plain, start]
      dsimp only
      rw [ih]
      rfl

/-- The scan passes over a character that occurs in no symbol. -/
theorem scan_append_cons {c : Char} (absent : ∀ symbol ∈ symbols, c ∉ symbol)
    (noParenthesis : isParenthesis c = false) (before behind : List Char) :
    scan symbols (before ++ c :: behind) =
      scan symbols before ++ .kept c :: scan symbols behind := by
  have nothing : symbolAt? symbols (c :: behind) = none := by
    rw [← List.nil_append (c :: behind), symbolAt?_append_cons absent]
    apply List.find?_eq_none.mpr
    intro symbol _
    cases symbol <;> simp
  rw [scan_append_of_absent absent, scan.eq_def symbols (c :: behind)]
  simp only [noParenthesis, nothing]
  rfl

theorem spaced_append_cons {c : Char} (absent : ∀ symbol ∈ symbols, c ∉ symbol)
    (noParenthesis : isParenthesis c = false) (before behind : List Char) :
    spaced symbols (before ++ c :: behind) =
      spaced symbols before ++ c :: spaced symbols behind := by
  rw [spaced, scan_append_cons absent noParenthesis, List.flatMap_append]
  rfl

/-- A blank is no parenthesis. -/
theorem isParenthesis_of_isBlank {c : Char} (blank : Text.isBlank c = true) :
    isParenthesis c = false := by
  rw [isParenthesis, Bool.or_eq_false_iff, beq_eq_false_iff_ne, beq_eq_false_iff_ne]
  constructor
  · rintro rfl
    revert blank
    decide
  · rintro rfl
    revert blank
    decide

theorem not_isBlank_of_isParenthesis {c : Char} (parenthesis : isParenthesis c = true) :
    Text.isBlank c = false := by
  cases blank : Text.isBlank c with
  | false => rfl
  | true =>
      rw [isParenthesis_of_isBlank blank] at parenthesis
      cases parenthesis

/-- The words of the spaced text are those of its words. -/
theorem words_spaced (blankFree : ∀ symbol ∈ symbols, ∀ c ∈ symbol, Text.isBlank c = false)
    (text : List Char) : Text.words (spaced symbols text) =
      (Text.words text).flatMap fun word => Text.words (spaced symbols word) := by
  by_cases whole : ∀ c ∈ text, Text.isBlank c = false
  · rcases eq_or_ne text [] with rfl | nonempty
    · rw [spaced_nil]
      rfl
    · rw [Text.words_of_not_blank nonempty whole, List.flatMap_singleton]
  · obtain ⟨c, mem, blank⟩ : ∃ c ∈ text, Text.isBlank c = true := by
      simpa using whole
    obtain ⟨before, behind, split⟩ := List.append_of_mem mem
    have shorter : before.length < text.length ∧ behind.length < text.length := by
      rw [split, List.length_append, List.length_cons]
      omega
    have absent : ∀ symbol ∈ symbols, c ∉ symbol := by
      intro symbol inSymbols inSymbol
      rw [blankFree symbol inSymbols c inSymbol] at blank
      cases blank
    rw [split, spaced_append_cons absent (isParenthesis_of_isBlank blank),
      Text.words_append_cons blank, Text.words_append_cons blank, List.flatMap_append,
      words_spaced blankFree before, words_spaced blankFree behind]
termination_by text.length
decreasing_by exacts [shorter.1, shorter.2]

/-! ### Words that stay whole -/

theorem symbolAt?_eq_none_iff {text : List Char} :
    symbolAt? symbols text = none ↔
      ∀ symbol ∈ symbols, symbol ≠ [] → ¬ symbol <+: text := by
  simp [symbolAt?, ← List.isPrefixOf_iff_prefix]

/-- Where no parenthesis and no symbol occurs, nothing is set apart. -/
theorem spaced_of_absent {text : List Char} (plain : ∀ c ∈ text, isParenthesis c = false)
    (absent : ∀ symbol ∈ symbols, symbol ≠ [] → ¬ symbol <:+: text) :
    spaced symbols text = text := by
  induction text with
  | nil => exact spaced_nil
  | cons c rest ih =>
      obtain ⟨atStart, atRest⟩ := List.forall_mem_cons.mp plain
      have nothing : symbolAt? symbols (c :: rest) = none :=
        symbolAt?_eq_none_iff.mpr fun symbol mem nonempty start =>
          absent symbol mem nonempty start.isInfix
      rw [spaced, scan, if_neg (Bool.eq_false_iff.mp atStart), nothing]
      apply congrArg (c :: ·)
      apply ih atRest
      intro symbol mem nonempty occurs
      exact absent symbol mem nonempty (List.infix_cons occurs)

theorem utf8_append (a b : List Char) : utf8 (a ++ b) = utf8 a ++ utf8 b :=
  List.flatMap_append

/-- The start of a text that is not shorter is the whole text. -/
theorem eq_of_start_of_length_le {a b : List Char} (start : a <+: b)
    (long : (utf8 b).length ≤ (utf8 a).length) : a = b := by
  obtain ⟨rest, rfl⟩ := start
  rw [utf8_append, List.length_append] at long
  have noBytes : utf8 rest = [] := List.length_eq_zero_iff.mp (by omega)
  have noRest : rest = [] := utf8_inj noBytes
  rw [noRest, List.append_nil]

/-- No symbol is longer than one before it in the list. -/
def LongestFirst (symbols : List (List Char)) : Prop :=
  symbols.Pairwise fun a b => (utf8 b).length ≤ (utf8 a).length

instance (symbols : List (List Char)) : Decidable (LongestFirst symbols) := by
  unfold LongestFirst; infer_instance

/-- With longer symbols first, the symbol found is the longest that starts the text. -/
theorem LongestFirst.prefix_of_symbolAt? (sorted : LongestFirst symbols)
    {text symbol other : List Char} (found : symbolAt? symbols text = some symbol)
    (mem : other ∈ symbols) (nonempty : other ≠ []) (start : other <+: text) :
    other <+: symbol := by
  obtain ⟨_, split⟩ := eq_append_of_symbolAt? found
  rcases List.prefix_or_prefix_of_prefix start ⟨_, split.symm⟩ with shorter | longer
  · exact shorter
  · obtain ⟨-, earlier, later, whole, rejected⟩ := List.find?_eq_some_iff_append.mp found
    rw [LongestFirst, whole] at sorted
    rw [whole] at mem
    rcases List.mem_append.mp mem with inEarlier | inLater
    · have notHere := rejected other inEarlier
      simp [nonempty, List.isPrefixOf_iff_prefix.mpr start] at notHere
    · rcases List.mem_cons.mp inLater with rfl | inLater
      · exact List.prefix_rfl
      · have notLonger :=
          (List.pairwise_cons.mp (List.pairwise_append.mp sorted).2.1).1 other inLater
        rw [eq_of_start_of_length_le longer notLonger]

theorem OperatorTable.longestFirst {α : Type} (table : OperatorTable α) :
    LongestFirst table.symbols := by
  refine List.pairwise_map.mpr (table.sorted.imp fun before => ?_)
  rcases before with longer | ⟨sameLength, -⟩
  · exact longer.le
  · exact sameLength.ge

/-- A symbol that is found in its own text is set apart as a whole. -/
theorem spaced_of_symbolAt? {symbol : List Char} (found : symbolAt? symbols symbol = some symbol)
    (plain : ∀ c ∈ symbol.head?, isParenthesis c = false) :
    spaced symbols symbol = ' ' :: symbol ++ [' '] := by
  obtain ⟨nonempty, -⟩ := eq_append_of_symbolAt? found
  obtain ⟨c, rest, rfl⟩ := List.exists_cons_of_ne_nil nonempty
  rw [spaced, scan, if_neg (Bool.eq_false_iff.mp (plain c rfl)), found]
  dsimp only
  rw [List.length_cons, Nat.add_sub_cancel, List.drop_length, scan]
  simp [Stretch.spaced]

/-- A word with blanks around it is the only one. -/
theorem words_between_blanks {word : List Char} (nonempty : word ≠ [])
    (blankFree : ∀ c ∈ word, Text.isBlank c = false) :
    Text.words (' ' :: word ++ [' ']) = [word] := by
  have blank : Text.isBlank ' ' = true := by decide
  have cut := Text.words_append_cons blank [] (word ++ [' '])
  rw [List.nil_append] at cut
  rw [List.cons_append, cut, Text.words_append_cons blank word [],
    Text.words_of_not_blank nonempty blankFree]
  rfl

theorem spaced_parenthesis {c : Char} (parenthesis : isParenthesis c = true) :
    spaced symbols [c] = ' ' :: [c] ++ [' '] := by
  rw [spaced, scan, if_pos parenthesis, scan]
  rfl

/-- A symbol of a table is set apart as a whole. -/
theorem OperatorTable.spaced_of_mem {α : Type} {table : OperatorTable α} {symbol : List Char}
    (mem : symbol ∈ table.symbols) (nonempty : symbol ≠ [])
    (plain : ∀ c ∈ symbol, isParenthesis c = false) :
    spaced table.symbols symbol = ' ' :: symbol ++ [' '] := by
  have found : symbolAt? table.symbols symbol = some symbol := by
    cases found : symbolAt? table.symbols symbol with
    | none =>
        have rejected := List.find?_eq_none.mp found symbol mem
        simp [nonempty] at rejected
    | some start =>
        have longer := table.longestFirst.prefix_of_symbolAt? found mem nonempty List.prefix_rfl
        obtain ⟨_, split⟩ := eq_append_of_symbolAt? found
        have shorter : start <+: symbol := ⟨_, split.symm⟩
        rw [shorter.eq_of_length_le longer.length_le]
  exact spaced_of_symbolAt? found fun c atHead => plain c (List.mem_of_mem_head? atHead)

/-- What holds of every character of a text is decided on the text, not on all
characters. -/
instance decidableForallMem {p : Char → Prop} [DecidablePred p] (text : List Char) :
    Decidable (∀ c ∈ text, p c) :=
  List.decidableBAll p text

namespace Registry

variable {α : Type}

/-- No binary symbol has a blank or a parenthesis in it. -/
def HasPlainSymbols (registry : Registry α) : Prop :=
  ∀ symbol ∈ registry.scanOrder, ∀ c ∈ symbol, Text.isBlank c = false ∧ isParenthesis c = false

instance (registry : Registry α) : Decidable registry.HasPlainSymbols := by
  unfold HasPlainSymbols; infer_instance

/-- A word that stays whole when operators are set apart: a parenthesis, a binary symbol,
or a word in which neither occurs. -/
def KeepsWhole (registry : Registry α) (word : List Char) : Prop :=
  word = ['('] ∨ word = [')'] ∨ word ∈ registry.scanOrder ∨
    (∀ c ∈ word, isParenthesis c = false) ∧
      ∀ symbol ∈ registry.scanOrder, symbol ≠ [] → ¬ symbol <:+: word

instance (registry : Registry α) (word : List Char) : Decidable (registry.KeepsWhole word) := by
  unfold KeepsWhole; infer_instance

variable {registry : Registry α}

theorem KeepsWhole.words_spaced {word : List Char} (whole : registry.KeepsWhole word)
    (plain : registry.HasPlainSymbols) (nonempty : word ≠ [])
    (blankFree : ∀ c ∈ word, Text.isBlank c = false) :
    Text.words (spaced registry.scanOrder word) = [word] := by
  have apart := words_between_blanks nonempty blankFree
  rcases whole with rfl | rfl | symbol | ⟨noParenthesis, absent⟩
  · rw [spaced_parenthesis rfl, apart]
  · rw [spaced_parenthesis rfl, apart]
  · rw [scanOrder, OperatorTable.spaced_of_mem symbol nonempty fun c mem =>
      (plain word symbol c mem).2, apart]
  · rw [spaced_of_absent noParenthesis absent, Text.words_of_not_blank nonempty blankFree]

/-- If all words of a text stay whole, they are the words of the spaced text. -/
theorem words_spaced_of_whole (plain : registry.HasPlainSymbols) {text : List Char}
    (whole : ∀ word ∈ Text.words text, registry.KeepsWhole word) :
    Text.words (spaced registry.scanOrder text) = Text.words text := by
  rw [Expression.words_spaced fun symbol mem c inSymbol => (plain symbol mem c inSymbol).1]
  have each : ∀ word ∈ Text.words text,
      Text.words (spaced registry.scanOrder word) = [word] := by
    intro word mem
    obtain ⟨nonempty, blankFree⟩ := Text.mem_words mem
    exact (whole word mem).words_spaced plain nonempty blankFree
  rw [List.flatMap_congr each]
  simp

end Registry

end Calculator.Expression
