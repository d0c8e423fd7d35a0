import Calculator.Proofs.Linear.LongestNumber
import Calculator.Proofs.Text.Pieces
import Calculator.Proofs.Text.Trim

/-!
The grammar of matrix literals.

A literal is cut at its row breaks, and each piece is read as numbers, every one as long as
possible, between separators (`RowText`). The pieces with a number are the rows
(`LiteralText`). `readRows?_eq_some_iff` says that the reader, which meets row breaks and
numbers in one pass, finds exactly these rows.
-/

namespace Calculator.Linear

open Decimal

/-! ### The grammar -/

/-- Can the character stand between the numbers of a row? -/
def isSeparator (c : Char) : Bool :=
  c == ',' || Text.isBlank c

/-- A piece of a literal with its numbers, each as long as possible. No other characters than
those of numbers and separators occur in it. -/
inductive RowText : List Char → List (List Char) → Prop where
  | nil : RowText [] []
  | separator {c : Char} {rest : List Char} {words : List (List Char)} :
      isSeparator c = true → RowText rest words → RowText (c :: rest) words
  | number {word rest : List Char} {words : List (List Char)} :
      IsLongestNumber word rest → RowText rest words → RowText (word ++ rest) (word :: words)

/-- The rows of a literal: the numbers of the pieces between row breaks, where there are
any. -/
def LiteralText (text : List Char) (rows : List (List (List Char))) : Prop :=
  ∃ all, List.Forall₂ RowText (Text.pieces isRowBreak text) all ∧
    rows = all.filter fun row => !row.isEmpty

/-- There is at least one row, and all rows have one length. -/
def IsRectangular {β : Type} (rows : List (List β)) : Prop :=
  rows ≠ [] ∧ ∀ row ∈ rows, ∀ other ∈ rows, row.length = other.length

/-! ### Kinds of characters -/

theorem isBlank_of_startsNumber {c : Char} (starts : startsNumber c = true) :
    Text.isBlank c = false := by
  have visible : 32 < c.val.toNat ∧ c.val.toNat < 127 := by
    simp only [startsNumber, Char.isDigit, Bool.or_eq_true, Bool.and_eq_true, decide_eq_true_eq,
      beq_iff_eq, ge_iff_le, UInt32.le_iff_toNat_le] at starts
    rcases starts with (digit | rfl) | rfl
    · exact ⟨digit.1.trans_lt' (by decide), digit.2.trans_lt (by decide)⟩
    · decide
    · decide
  exact Text.isBlank_eq_false_of_bounds visible

/-- The three row breaks are neither separators nor characters of a number. -/
theorem kinds_of_isRowBreak {c : Char} (atBreak : isRowBreak c = true) :
    startsNumber c = false ∧ isSeparator c = false ∧ c.isDigit = false ∧ c ≠ '.' := by
  simp only [isRowBreak, Bool.or_eq_true, beq_iff_eq] at atBreak
  rcases atBreak with (rfl | rfl) | rfl <;> decide

theorem startsNumber_of_isSeparator {c : Char} (separates : isSeparator c = true) :
    startsNumber c = false := by
  rw [isSeparator, Bool.or_eq_true, beq_iff_eq] at separates
  rcases separates with rfl | blank
  · rfl
  · by_contra starts
    rw [isBlank_of_startsNumber (Bool.eq_true_of_not_eq_false starts)] at blank
    cases blank

/-! ### The reader, character by character -/

variable {α : Type} [Numeral α]

theorem readCells?_rowBreak {c : Char} (atBreak : isRowBreak c = true) (rest : List Char) :
    readCells? (α := α) (c :: rest) = (readCells? rest).map (none :: ·) := by
  rw [readCells?, if_pos atBreak]

theorem readCells?_separator {c : Char} (separates : isSeparator c = true) (rest : List Char) :
    readCells? (α := α) (c :: rest) = readCells? rest := by
  have noBreak : ¬ isRowBreak c = true := fun atBreak => by
    rw [(kinds_of_isRowBreak atBreak).2.1] at separates
    cases separates
  rw [readCells?, if_neg noBreak, if_neg (by simp [startsNumber_of_isSeparator separates])]
  exact if_pos separates

theorem readCells?_number {word rest : List Char} (longest : IsLongestNumber word rest) :
    readCells? (α := α) (word ++ rest) =
      (Numeral.read? word).bind fun value => (readCells? rest).map (some value :: ·) := by
  cases word with
  | nil => exact absurd longest.isNumber not_isPlainNumber_nil
  | cons c front =>
      obtain ⟨starts, digit, run⟩ := isLongestNumber_iff.mp longest
      have noBreak : ¬ isRowBreak c = true := fun atBreak => by
        rw [(kinds_of_isRowBreak atBreak).1] at starts
        cases starts
      rw [List.cons_append, readCells?, if_neg noBreak, if_pos starts]
      simp only [run, digit, if_true]

/-! ### One piece -/

def ReadsAs (word : List Char) (value : α) : Prop :=
  Numeral.read? word = some value

/-- Exactly the pieces of the grammar are read, as the values of their numbers. -/
theorem readCells?_eq_some_iff {piece : List Char}
    (whole : ∀ c ∈ piece, isRowBreak c = false) {cells : List (Option α)} :
    readCells? piece = some cells ↔ ∃ words row, RowText piece words ∧
      List.Forall₂ ReadsAs words row ∧ cells = row.map some := by
  constructor
  · intro read
    fun_induction readCells? (α := α) piece generalizing cells with
    | case1 =>
        cases read
        exact ⟨[], [], .nil, .nil, rfl⟩
    | case2 c rest atBreak ih =>
        rw [whole c List.mem_cons_self] at atBreak
        cases atBreak
    | case3 c rest noBreak starts run word digit =>
        rename_i ih
        obtain ⟨value, readWord, read⟩ := Option.bind_eq_some_iff.mp read
        obtain ⟨others, readOthers, rfl⟩ := Option.map_eq_some_iff.mp read
        have split : run.1 ++ run.2 = rest := digitRun_append _ _
        have inRest : ∀ d ∈ run.2, isRowBreak d = false := fun d mem =>
          whole d (List.mem_cons_of_mem c (split ▸ List.mem_append_right _ mem))
        obtain ⟨words, row, rowText, readWords, rfl⟩ := ih inRest readOthers
        have longest : IsLongestNumber word run.2 := isLongestNumber_digitRun starts digit
        refine ⟨word :: words, value :: row, ?_, .cons readWord readWords, rfl⟩
        have joined : word ++ run.2 = c :: rest := congrArg (c :: ·) split
        exact joined ▸ RowText.number longest rowText
    | case4 => cases read
    | case5 c rest noBreak noNumber separates ih =>
        obtain ⟨words, row, rowText, readWords, rfl⟩ :=
          ih (fun d mem => whole d (List.mem_cons_of_mem c mem)) read
        exact ⟨words, row, .separator separates rowText, readWords, rfl⟩
    | case6 => cases read
  · rintro ⟨words, row, rowText, readWords, rfl⟩
    clear whole
    induction rowText generalizing row with
    | nil =>
        cases readWords
        rw [readCells?]
        rfl
    | separator separates _ ih => rw [readCells?_separator separates, ih row readWords]
    | number longest _ ih =>
        obtain - | ⟨readWord, readWords⟩ := readWords
        rw [readCells?_number longest, readWord, ih _ readWords]
        rfl

/-! ### All pieces -/

/-- What stands in front of a row break is read on its own. -/
theorem readCells?_append_cons {c : Char} (atBreak : isRowBreak c = true)
    (before behind : List Char) :
    readCells? (α := α) (before ++ c :: behind) =
      (readCells? before).bind fun cells =>
        (readCells? behind).map fun others => cells ++ none :: others := by
  obtain ⟨-, -, noDigit, noPoint⟩ := kinds_of_isRowBreak atBreak
  fun_induction readCells? (α := α) before with
  | case1 => rw [List.nil_append, readCells?_rowBreak atBreak]; rfl
  | case2 d rest atBreak ih =>
      rw [List.cons_append, readCells?_rowBreak atBreak, ih, Option.map_bind, Option.bind_map]
      simp [Function.comp_def]
  | case3 d rest noBreak starts run word digit ih =>
      rw [List.cons_append, readCells?, if_neg noBreak, if_pos starts]
      simp only [digitRun_append_cons noDigit noPoint]
      rw [if_pos digit]
      simp only [run] at ih
      rw [ih]
      cases Numeral.read? (α := α) (d :: (digitRun (d == '.') rest).1) <;>
        simp [Option.map_bind, Option.bind_map, Function.comp_def, run]
  | case4 d rest noBreak starts run word noDigits =>
      rw [List.cons_append, readCells?, if_neg noBreak, if_pos starts]
      simp only [digitRun_append_cons noDigit noPoint]
      rw [if_neg noDigits]
      rfl
  | case5 d rest noBreak noNumber separates ih =>
      rw [List.cons_append, readCells?_separator separates, ih]
  | case6 d rest noBreak noNumber noSeparator =>
      rw [List.cons_append, readCells?, if_neg noBreak, if_neg noNumber, if_neg noSeparator]
      rfl

def readRows? (text : List Char) : Option (List (List α)) :=
  (readCells? text).map rowsOfCells

/-- A row, left out if it is empty. -/
def asRow {β : Type} (row : List β) : List (List β) :=
  [row].filter fun row => !row.isEmpty

omit [Numeral α] in
theorem rowsOfCells_append_none (cells others : List (Option α)) :
    rowsOfCells (cells ++ none :: others) = rowsOfCells cells ++ rowsOfCells others := by
  rw [rowsOfCells, Text.nonemptyPieces_append_cons rfl, List.map_append]
  rfl

omit [Numeral α] in
theorem rowsOfCells_map_some (row : List α) : rowsOfCells (row.map some) = asRow row := by
  have whole : ∀ cell ∈ row.map some, cell.isNone = false := by simp
  rw [rowsOfCells, Text.nonemptyPieces, Text.pieces_of_not_cut whole, asRow]
  cases row with
  | nil => rfl
  | cons x row => simp [List.reduceOption, List.filterMap_map]

theorem readRows?_append_cons {c : Char} (atBreak : isRowBreak c = true)
    (before behind : List Char) :
    readRows? (α := α) (before ++ c :: behind) =
      (readRows? before).bind fun rows => (readRows? behind).map (rows ++ ·) := by
  rw [readRows?, readCells?_append_cons atBreak, readRows?, readRows?]
  cases readCells? (α := α) before with
  | none => rfl
  | some cells =>
      cases readCells? (α := α) behind with
      | none => rfl
      | some others => simp [rowsOfCells_append_none]

/-! ### The grammar, piece by piece -/

theorem literalText_of_whole {piece : List Char} (whole : ∀ c ∈ piece, isRowBreak c = false)
    {rows : List (List (List Char))} :
    LiteralText piece rows ↔ ∃ words, RowText piece words ∧ rows = asRow words := by
  rw [LiteralText, Text.pieces_of_not_cut whole]
  constructor
  · rintro ⟨_, _ | ⟨rowText, _ | _⟩, rfl⟩
    exact ⟨_, rowText, rfl⟩
  · rintro ⟨words, rowText, rfl⟩
    exact ⟨[words], .cons rowText .nil, rfl⟩

theorem literalText_append_cons {c : Char} (atBreak : isRowBreak c = true)
    {before behind : List Char} (whole : ∀ c ∈ before, isRowBreak c = false)
    {rows : List (List (List Char))} :
    LiteralText (before ++ c :: behind) rows ↔ ∃ words others, RowText before words ∧
      LiteralText behind others ∧ rows = asRow words ++ others := by
  rw [LiteralText, Text.pieces_append_cons atBreak, Text.pieces_of_not_cut whole]
  constructor
  · rintro ⟨_, _ | ⟨rowText, others⟩, rfl⟩
    exact ⟨_, _, rowText, ⟨_, others, rfl⟩, List.filter_append [_] _⟩
  · rintro ⟨words, _, rowText, ⟨others, each, rfl⟩, rfl⟩
    exact ⟨words :: others, .cons rowText each, (List.filter_append [_] _).symm⟩

/-- Rows related to a row in front of others are one related to it and some related to the
others. -/
theorem forall₂_asRow_append_iff {β γ : Type} {R : β → γ → Prop} {row : List β}
    {others : List (List β)} {related : List (List γ)} :
    List.Forall₂ (List.Forall₂ R) (asRow row ++ others) related ↔
      ∃ row' others', List.Forall₂ R row row' ∧ List.Forall₂ (List.Forall₂ R) others others' ∧
        related = asRow row' ++ others' := by
  constructor
  · intro each
    cases row with
    | nil => exact ⟨[], related, .nil, each, rfl⟩
    | cons x row =>
        cases each with
        | cons first each =>
            cases first with
            | cons atX first => exact ⟨_, _, .cons atX first, each, rfl⟩
  · rintro ⟨row', others', first, each, rfl⟩
    cases first with
    | nil => exact each
    | cons atX first => exact .cons (.cons atX first) each

/-- Reading finds exactly the rows of the grammar, as the values of their numbers. -/
theorem readRows?_eq_some_iff {text : List Char} {rows : List (List α)} :
    readRows? text = some rows ↔
      ∃ words, LiteralText text words ∧ List.Forall₂ (List.Forall₂ ReadsAs) words rows := by
  have alone {piece : List Char} (whole : ∀ c ∈ piece, isRowBreak c = false)
      {rows : List (List α)} : readRows? piece = some rows ↔
        ∃ words row, RowText piece words ∧ List.Forall₂ ReadsAs words row ∧ rows = asRow row := by
    rw [readRows?, Option.map_eq_some_iff]
    simp only [readCells?_eq_some_iff whole]
    constructor
    · rintro ⟨_, ⟨words, row, rowText, readWords, rfl⟩, rfl⟩
      exact ⟨words, row, rowText, readWords, rowsOfCells_map_some row⟩
    · rintro ⟨words, row, rowText, readWords, rfl⟩
      exact ⟨_, ⟨words, row, rowText, readWords, rfl⟩, rowsOfCells_map_some row⟩
  induction text using Text.pieces_induction isRowBreak generalizing rows with
  | whole piece whole =>
      simp only [alone whole, literalText_of_whole whole]
      constructor
      · rintro ⟨words, row, rowText, readWords, rfl⟩
        refine ⟨_, ⟨words, rowText, rfl⟩, ?_⟩
        simpa using forall₂_asRow_append_iff.mpr ⟨row, [], readWords, .nil, rfl⟩
      · rintro ⟨_, ⟨words, rowText, rfl⟩, readRows⟩
        rw [← List.append_nil (asRow words), forall₂_asRow_append_iff] at readRows
        obtain ⟨row, _, readWords, ⟨⟩, rfl⟩ := readRows
        exact ⟨words, row, rowText, readWords, List.append_nil _⟩
  | cut before c behind whole atBreak ih =>
      rw [readRows?_append_cons atBreak]
      simp only [literalText_append_cons atBreak whole, Option.bind_eq_some_iff, alone whole,
        Option.map_eq_some_iff, ih]
      constructor
      · rintro ⟨_, ⟨words, row, rowText, readWords, rfl⟩, others, ⟨words', inGrammar, each⟩, rfl⟩
        exact ⟨_, ⟨words, words', rowText, inGrammar, rfl⟩,
          forall₂_asRow_append_iff.mpr ⟨row, others, readWords, each, rfl⟩⟩
      · rintro ⟨_, ⟨words, words', rowText, inGrammar, rfl⟩, each⟩
        obtain ⟨row, others, readWords, readOthers, rfl⟩ := forall₂_asRow_append_iff.mp each
        exact ⟨_, ⟨words, row, rowText, readWords, rfl⟩, others, ⟨words', inGrammar, readOthers⟩,
          rfl⟩

/-! ### Rows as a matrix -/

section Rows

variable {β : Type} {m n : Nat}

theorem length_of_mem_toRows {a : DenseMatrix β m n} : ∀ row ∈ a.toRows, row.length = n := by
  simp [DenseMatrix.toRows]

theorem isRectangular_toRows {a : DenseMatrix β m n} (nonempty : a.toRows ≠ []) :
    IsRectangular a.toRows :=
  ⟨nonempty, fun row mem other mem' => by
    rw [length_of_mem_toRows row mem, length_of_mem_toRows other mem']⟩

theorem toRows_ofRows {rows : List (List β)} (rowCount : rows.length = m)
    (columnCount : ∀ row ∈ rows, row.length = n) :
    (DenseMatrix.ofRows rows rowCount columnCount).toRows = rows := by
  subst rowCount
  refine List.ext_getElem (by simp [DenseMatrix.toRows]) fun i inside inside' => ?_
  refine List.ext_getElem ?_ fun j _ _ => ?_
  · simp [DenseMatrix.toRows, columnCount _ (List.getElem_mem inside')]
  · simp [DenseMatrix.toRows, DenseMatrix.ofRows]

/-- A matrix with a row is determined by its rows. -/
theorem AnyMatrix.eq_of_toRows {a b : AnyMatrix β} (nonempty : 0 < a.rows)
    (same : a.matrix.toRows = b.matrix.toRows) : a = b := by
  obtain ⟨m, n, a⟩ := a
  obtain ⟨m', n', b⟩ := b
  obtain rfl : m = m' := by simpa [DenseMatrix.toRows] using congrArg List.length same
  have entries : ∀ i : Fin m, List.ofFn (a.entry i) = List.ofFn (b.entry i) :=
    congrFun (List.ofFn_injective same)
  obtain rfl : n = n' := by simpa using congrArg List.length (entries ⟨0, nonempty⟩)
  exact congrArg (AnyMatrix.mk m n) (DenseMatrix.ext_entry fun i j =>
    congrFun (List.ofFn_injective (entries i)) j)

/-- Rows are those of a matrix exactly if they have one length. -/
theorem AnyMatrix.ofRows?_eq_some_iff {rows : List (List β)} (nonempty : rows ≠ [])
    {read : AnyMatrix β} : AnyMatrix.ofRows? rows = some read ↔ read.matrix.toRows = rows := by
  have collected {read : AnyMatrix β} (found : AnyMatrix.ofRows? rows = some read) :
      read.matrix.toRows = rows := by
    simp only [AnyMatrix.ofRows?] at found
    split at found
    · rename_i lengths
      cases found
      exact toRows_ofRows rfl lengths
    · cases found
  refine ⟨collected, fun same => ?_⟩
  obtain ⟨first, others, rfl⟩ := List.exists_cons_of_ne_nil nonempty
  have lengths : ∀ row ∈ first :: others, row.length = first.length := fun row mem => by
    rw [length_of_mem_toRows row (same ▸ mem),
      length_of_mem_toRows first (same ▸ List.mem_cons_self)]
  obtain ⟨found, isFound⟩ : ∃ found, AnyMatrix.ofRows? (first :: others) = some found :=
    ⟨_, dif_pos lengths⟩
  rw [isFound, AnyMatrix.eq_of_toRows ?_ ((collected isFound).trans same.symm)]
  have count := congrArg List.length (collected isFound)
  rw [DenseMatrix.toRows, List.length_ofFn] at count
  rw [count]
  exact Nat.succ_pos _

/-- Rows of one length are those of a matrix. -/
theorem IsRectangular.exists_matrix {rows : List (List β)} (rectangular : IsRectangular rows) :
    ∃ read : AnyMatrix β, read.matrix.toRows = rows := by
  obtain ⟨nonempty, lengths⟩ := rectangular
  obtain ⟨first, others, rfl⟩ := List.exists_cons_of_ne_nil nonempty
  have toFirst : ∀ row ∈ first :: others, row.length = first.length := fun row mem =>
    lengths row mem first List.mem_cons_self
  exact ⟨⟨_, _, .ofRows (first :: others) rfl toFirst⟩, toRows_ofRows rfl toFirst⟩

end Rows

/-! ### Reading a matrix -/

/-- The matrix that is read has the rows that are read, at least one. -/
theorem readMatrix_eq_ok_iff {text : List Char} {read : AnyMatrix α} :
    readMatrix text = .ok read ↔
      read.matrix.toRows ≠ [] ∧ readRows? text = some read.matrix.toRows := by
  rw [readMatrix, ← readRows?]
  cases readRows? (α := α) text with
  | none => exact ⟨fun ok => (by cases ok), fun ⟨_, same⟩ => (by cases same)⟩
  | some rows =>
      cases rows with
      | nil =>
          refine ⟨fun ok => (by cases ok), fun ⟨nonempty, same⟩ => ?_⟩
          exact absurd (Option.some.inj same).symm nonempty
      | cons first others =>
          have found : AnyMatrix.ofRows? (first :: others) = some read ↔
              read.matrix.toRows = first :: others :=
            AnyMatrix.ofRows?_eq_some_iff (List.cons_ne_nil first others)
          simp only [Option.some.injEq]
          rw [eq_comm (a := first :: others), ← found]
          cases isFound : AnyMatrix.ofRows? (first :: others) with
          | none => simp
          | some matrix =>
              simp only [Except.ok.injEq, Option.some.injEq]
              refine ⟨fun same => ⟨?_, same⟩, And.right⟩
              rw [found.mp (isFound.trans (congrArg some same))]
              exact List.cons_ne_nil _ _

/-- A literal that is no matrix is refused in one way. -/
theorem readMatrix_eq_error {text : List Char}
    (refused : ∀ read : AnyMatrix α, readMatrix text ≠ .ok read) :
    readMatrix (α := α) text = .error .unreadable := by
  rw [readMatrix] at refused ⊢
  split at refused
  · rfl
  · rfl
  · split at refused
    · rename_i read _
      exact absurd rfl (refused read)
    · rfl

/-! ### Numbers of a literal -/

/-- Items that are each related to something are together related to a list. -/
theorem exists_forall₂ {β γ : Type} {R : β → γ → Prop} {items : List β}
    (each : ∀ item ∈ items, ∃ other, R item other) : ∃ others, List.Forall₂ R items others := by
  induction items with
  | nil => exact ⟨[], .nil⟩
  | cons item items ih =>
      obtain ⟨⟨other, first⟩, each⟩ := List.forall_mem_cons.mp each
      obtain ⟨others, rest⟩ := ih each
      exact ⟨other :: others, .cons first rest⟩

theorem RowText.isPlainNumber {piece : List Char} {words : List (List Char)}
    (rowText : RowText piece words) : ∀ word ∈ words, IsPlainNumber word := by
  induction rowText with
  | nil => exact List.forall_mem_nil _
  | separator _ _ ih => exact ih
  | number longest _ ih => exact List.forall_mem_cons.mpr ⟨longest.isNumber, ih⟩

theorem LiteralText.isPlainNumber {text : List Char} {rows : List (List (List Char))}
    (inGrammar : LiteralText text rows) : ∀ row ∈ rows, ∀ word ∈ row, IsPlainNumber word := by
  obtain ⟨all, each, rfl⟩ := inGrammar
  intro row mem
  obtain ⟨i, inside, rfl⟩ := List.getElem_of_mem (List.mem_filter.mp mem).1
  exact (each.get (each.length_eq ▸ inside) inside).isPlainNumber

/-- Related rows have the same lengths. -/
theorem isRectangular_iff {β γ : Type} {R : β → γ → Prop} {rows : List (List β)}
    {related : List (List γ)} (each : List.Forall₂ (List.Forall₂ R) rows related) :
    IsRectangular rows ↔ IsRectangular related := by
  have lengths : rows.map List.length = related.map List.length := by
    rw [← List.forall₂_eq_eq_eq, List.forall₂_map_left_iff, List.forall₂_map_right_iff]
    exact each.imp fun _ _ => List.Forall₂.length_eq
  have shape {δ : Type} (rows : List (List δ)) : IsRectangular rows ↔
      rows.map List.length ≠ [] ∧ ∀ k ∈ rows.map List.length, ∀ l ∈ rows.map List.length, k = l := by
    simp [IsRectangular]
  rw [shape, shape, lengths]

end Calculator.Linear
