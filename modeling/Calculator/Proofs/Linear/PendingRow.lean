import Calculator.Number.Double
import Calculator.Proofs.Linear.MatrixGrammar
import Mathlib.Data.List.OfFn

/-!
Reading a matrix in one pass.

The tokens of a literal are taken from left to right into a row that is not complete yet; a row
break completes it, and so does the end of the text. Then the rows are laid out in one list of
cells, from which the matrix is filled. A number token without a value, a division by no
columns and a count of cells that does not fit would end this run (`Halt`). None of them
occurs: `readMatrix_splits` says that the run gives what is read, and that this is the matrix
of the rows of the grammar.
-/

namespace Calculator.Linear

open Decimal

variable {α : Type}

/-! ### The run -/

inductive LiteralToken where
  | number (word : List Char)
  | rowBreak
  | comma

/-- The tokens of a text. What is no token is reported in its place. -/
def literalTokens : List Char → List (Except LinearError LiteralToken)
  | [] => []
  | c :: rest =>
      if isRowBreak c then .ok .rowBreak :: literalTokens rest
      else if c == ',' then .ok .comma :: literalTokens rest
      else if startsNumber c then
        let run := digitRun (c == '.') rest
        let word := c :: run.1
        (if word.any Char.isDigit then .ok (.number word) else .error .unreadable) ::
          literalTokens run.2
      else if Text.isBlank c then literalTokens rest
      else .error .unreadable :: literalTokens rest
termination_by text => text.length
decreasing_by
  all_goals first
    | exact Nat.lt_succ_self _
    | exact Nat.lt_succ_of_le (digitRun_length _ _)

/-- What ends the run without a matrix: a number token that has no value, rows without columns
to divide the cells by, a count of cells that does not fit the shape, or a reported error. -/
inductive Halt where
  | noValue
  | noColumns
  | cellCount
  | rejected (cause : LinearError)
  deriving DecidableEq

/-- The complete rows, and the numbers of the row that is not complete. -/
structure PendingRow (α : Type) where
  rows : List (List α)
  row : List α

namespace PendingRow

/-- Complete the row, unless it has no numbers. -/
def flush (state : PendingRow α) : PendingRow α :=
  if state.row.isEmpty then state else ⟨state.rows ++ [state.row], []⟩

def push (state : PendingRow α) (value : α) : PendingRow α :=
  { state with row := state.row ++ [value] }

def take [Numeral α] (state : PendingRow α) :
    Except LinearError LiteralToken → Except Halt (PendingRow α)
  | .error cause => .error (.rejected cause)
  | .ok (.number word) =>
      match Numeral.read? word with
      | some value => .ok (state.push value)
      | none => .error .noValue
  | .ok .rowBreak => .ok state.flush
  | .ok .comma => .ok state

end PendingRow

/-- The place of an entry when the rows of a matrix are laid out one behind the other. -/
def rowMajor {m n : Nat} (i : Fin m) (j : Fin n) : Fin (m * n) :=
  ⟨i * n + j, calc
    i * n + j < (i + 1) * n := by rw [Nat.succ_mul]; exact Nat.add_lt_add_left j.isLt _
    _ ≤ m * n := Nat.mul_le_mul_right n i.isLt⟩

/-- Fill a matrix with cells. They have to be as many as the matrix has. -/
def fill (m n : Nat) (cells : List α) : Except Halt (AnyMatrix α) :=
  if count : cells.length = m * n then
    .ok ⟨m, n, .ofFn fun i j => cells.get ((rowMajor i j).cast count.symm)⟩
  else .error .cellCount

/-- How many rows some cells are. -/
def countRows (cells columns : Nat) : Except Halt Nat :=
  if columns = 0 then .error .noColumns else .ok (cells / columns)

def layOut (rows : List (List α)) : Except Halt (AnyMatrix α) :=
  match rows with
  | [] => .error (.rejected .unreadable)
  | first :: others =>
      if (first :: others).any fun row => row.length != first.length then
        .error (.rejected .unreadable)
      else
        let cells := (first :: others).flatten
        (countRows cells.length first.length).bind fun count => fill count first.length cells

/-- Read a matrix token by token. -/
def readMatrixRun [Numeral α] (text : List Char) : Except Halt (AnyMatrix α) :=
  ((literalTokens text).foldlM PendingRow.take ⟨[], []⟩).bind fun state =>
    layOut state.flush.rows

/-! ### Taking the tokens -/

namespace PendingRow

/-- Take a number, or a row break. -/
def absorb (state : PendingRow α) : Option α → PendingRow α
  | none => state.flush
  | some value => state.push value

theorem flush_rows (rows : List (List α)) (row : List α) :
    (PendingRow.mk rows row).flush = ⟨rows ++ asRow row, []⟩ := by
  cases row with
  | nil => simp [flush, asRow]
  | cons value row => simp [flush, asRow]

/-- After the last token, the rows are those between the row breaks. -/
theorem rows_flush_foldl_absorb (cells : List (Option α)) (rows : List (List α)) (row : List α) :
    (cells.foldl absorb ⟨rows, row⟩).flush.rows =
      rows ++ rowsOfCells (row.map some ++ cells) := by
  induction cells generalizing rows row with
  | nil => simp [flush_rows, rowsOfCells_map_some]
  | cons cell cells ih =>
      cases cell with
      | none =>
          rw [List.foldl_cons, absorb, flush_rows rows row, ih, rowsOfCells_append_none,
            rowsOfCells_map_some, List.append_assoc]
          rfl
      | some value =>
          rw [List.foldl_cons, absorb, push, ih]
          simp

/-- Taking the tokens of a text is taking its numbers and row breaks, since every number
token has a value. -/
theorem foldlM_take_literalTokens (text : List Char) (state : PendingRow Float) :
    (literalTokens text).foldlM take state =
      match readCells? text with
      | some cells => .ok (cells.foldl absorb state)
      | none => .error (.rejected .unreadable) := by
  fun_induction literalTokens text generalizing state with
  | case1 =>
      rw [readCells?]
      rfl
  | case2 c rest atBreak ih =>
      rw [readCells?_rowBreak atBreak, List.foldlM_cons]
      refine (ih state.flush).trans ?_
      cases readCells? (α := Float) rest <;> rfl
  | case3 c rest noBreak comma ih =>
      have separates : isSeparator c = true := Bool.or_eq_true_iff.mpr (.inl comma)
      rw [readCells?_separator separates, List.foldlM_cons]
      exact ih state
  | case4 c rest noBreak noComma starts run word ih =>
      have split : run.1 ++ run.2 = rest := digitRun_append _ _
      by_cases digit : word.any Char.isDigit = true
      · have longest : IsLongestNumber word run.2 := isLongestNumber_digitRun starts digit
        obtain ⟨value, hasValue⟩ := Double.exists_read?_of_isPlainNumber longest.isNumber
        have isRead : Numeral.read? word = some value := hasValue
        have joined : c :: rest = word ++ run.2 := congrArg (c :: ·) split.symm
        rw [joined, readCells?_number longest, isRead, if_pos digit, List.foldlM_cons]
        have taken : take state (.ok (.number word)) = .ok (state.push value) := by
          rw [take, isRead]
        rw [taken]
        refine (ih (state.push value)).trans ?_
        cases readCells? (α := Float) run.2 <;> rfl
      · have refused : readCells? (α := Float) (c :: rest) = none := by
          rw [readCells?, if_neg noBreak, if_pos starts]
          exact if_neg digit
        rw [if_neg digit, refused]
        rfl
  | case5 c rest noBreak noComma noNumber blank ih =>
      have separates : isSeparator c = true := Bool.or_eq_true_iff.mpr (.inr blank)
      rw [readCells?_separator separates]
      exact ih state
  | case6 c rest noBreak noComma noNumber noBlank ih =>
      have noSeparator : ¬ (c == ',' || Text.isBlank c) = true := by simp [noComma, noBlank]
      rw [readCells?, if_neg noBreak, if_neg noNumber, if_neg noSeparator]
      rfl

end PendingRow

/-! ### Laying out the rows -/

theorem rowsOfCells_ne_nil (cells : List (Option α)) : ∀ row ∈ rowsOfCells cells, row ≠ [] := by
  intro row mem
  obtain ⟨piece, isPiece, rfl⟩ := List.mem_map.mp mem
  obtain ⟨inPieces, nonempty⟩ := List.mem_filter.mp isPiece
  obtain ⟨cell, others, rfl⟩ := List.exists_cons_of_ne_nil (l := piece) (by simpa using nonempty)
  have isNumber := Text.not_cut_of_mem_pieces _ inPieces cell List.mem_cons_self
  obtain ⟨value, rfl⟩ := Option.isSome_iff_exists.mp (Option.isNone_eq_false_iff.mp isNumber)
  exact List.cons_ne_nil _ _

theorem length_flatten_of_lengths {rows : List (List α)} {n : Nat}
    (lengths : ∀ row ∈ rows, row.length = n) : rows.flatten.length = rows.length * n := by
  rw [List.length_flatten, List.eq_replicate_iff.mpr ⟨List.length_map ..,
    List.forall_mem_map.mpr lengths⟩]
  simp

/-- The matrix filled with the cells of rows of one length has these rows. -/
theorem exists_fill {rows : List (List α)} {n : Nat} (lengths : ∀ row ∈ rows, row.length = n) :
    ∃ read, fill rows.length n rows.flatten = .ok read ∧ read.matrix.toRows = rows := by
  have count := length_flatten_of_lengths lengths
  refine ⟨_, dif_pos count, List.eq_iff_flatten_eq.mpr ⟨?_, ?_⟩⟩
  · simp only [DenseMatrix.toRows, DenseMatrix.entry_ofFn]
    refine (List.ofFn_mul fun k => rows.flatten.get (k.cast count.symm)).symm.trans ?_
    rw [← List.ofFn_congr count rows.flatten.get, List.ofFn_get]
  · rw [List.map_eq_replicate_iff.mpr lengths, List.map_eq_replicate_iff.mpr length_of_mem_toRows]
    simp [DenseMatrix.toRows]

/-- Rows of one length, none of them empty, are laid out as the matrix with these rows. -/
theorem exists_layOut {rows : List (List α)} (rectangular : IsRectangular rows)
    (nonempty : ∀ row ∈ rows, row ≠ []) :
    ∃ read, layOut rows = .ok read ∧ read.matrix.toRows = rows := by
  obtain ⟨some_row, lengths⟩ := rectangular
  obtain ⟨first, others, rfl⟩ := List.exists_cons_of_ne_nil some_row
  have toFirst : ∀ row ∈ first :: others, row.length = first.length := fun row mem =>
    lengths row mem first List.mem_cons_self
  have columns : 0 < first.length := List.length_pos_iff.mpr (nonempty first List.mem_cons_self)
  have oneLength : ((first :: others).any fun row => row.length != first.length) = false := by
    simpa using fun row mem => toFirst row (List.mem_cons_of_mem first mem)
  have counted : countRows (first :: others).flatten.length first.length =
      .ok (first :: others).length := by
    rw [countRows, if_neg columns.ne', length_flatten_of_lengths toFirst,
      Nat.mul_div_cancel _ columns]
  obtain ⟨read, filled, same⟩ := exists_fill toFirst
  refine ⟨read, ?_, same⟩
  simp only [layOut, oneLength, Bool.false_eq_true, if_false, counted]
  exact filled

/-- All other rows are refused. -/
theorem layOut_of_not_rectangular {rows : List (List α)} (ragged : ¬ IsRectangular rows) :
    layOut rows = .error (.rejected .unreadable) := by
  cases rows with
  | nil => rfl
  | cons first others =>
      have different : ((first :: others).any fun row => row.length != first.length) = true := by
        by_contra same
        have toFirst : ∀ row ∈ first :: others, row.length = first.length := by
          simpa using same
        refine ragged ⟨List.cons_ne_nil _ _, fun row mem other mem' => ?_⟩
        rw [toFirst row mem, toFirst other mem']
      rw [layOut, different]
      rfl

/-! ### The run gives the matrix -/

theorem readMatrixRun_eq_layOut (text : List Char) :
    readMatrixRun (α := Float) text =
      match readRows? text with
      | some rows => layOut rows
      | none => .error (.rejected .unreadable) := by
  rw [readMatrixRun, PendingRow.foldlM_take_literalTokens, readRows?]
  cases readCells? (α := Float) text with
  | none => rfl
  | some cells => exact congrArg layOut (PendingRow.rows_flush_foldl_absorb cells [] [])

/-- The run gives what is read: it never ends for want of a value, of columns or of cells. -/
theorem readMatrixRun_eq (text : List Char) :
    readMatrixRun (α := Float) text = (readMatrix text).mapError Halt.rejected := by
  rw [readMatrixRun_eq_layOut]
  by_cases accepted : ∃ rows, readRows? (α := Float) text = some rows ∧ IsRectangular rows
  · obtain ⟨rows, isRead, rectangular⟩ := accepted
    have nonempty : ∀ row ∈ rows, row ≠ [] := by
      obtain ⟨cells, -, rfl⟩ := Option.map_eq_some_iff.mp isRead
      exact rowsOfCells_ne_nil cells
    obtain ⟨read, laidOut, same⟩ := exists_layOut rectangular nonempty
    have matrix : readMatrix text = .ok read :=
      readMatrix_eq_ok_iff.mpr (same ▸ ⟨rectangular.1, isRead⟩)
    rw [isRead, matrix]
    exact laidOut
  · have refused : readMatrix (α := Float) text = .error .unreadable := by
      refine readMatrix_eq_error fun read isMatrix => accepted ?_
      obtain ⟨nonempty, isRead⟩ := readMatrix_eq_ok_iff.mp isMatrix
      exact ⟨_, isRead, isRectangular_toRows nonempty⟩
    rw [refused]
    cases isRead : readRows? (α := Float) text with
    | none => rfl
    | some rows =>
        exact layOut_of_not_rectangular fun rectangular => accepted ⟨rows, isRead, rectangular⟩

/-! ### What is read -/

/-- Every number token is a number of the grammar. -/
theorem isPlainNumber_of_mem_literalTokens {text word : List Char}
    (mem : .ok (.number word) ∈ literalTokens text) : IsPlainNumber word := by
  fun_induction literalTokens text with
  | case1 => cases mem
  | case2 c rest atBreak ih =>
      rcases List.mem_cons.mp mem with same | later
      · cases same
      · exact ih later
  | case3 c rest noBreak comma ih =>
      rcases List.mem_cons.mp mem with same | later
      · cases same
      · exact ih later
  | case4 c rest noBreak noComma starts run taken ih =>
      rcases List.mem_cons.mp mem with same | later
      · split at same
        · rename_i digit
          rw [LiteralToken.number.inj (Except.ok.inj same)]
          exact (isLongestNumber_digitRun starts digit).isNumber
        · cases same
      · exact ih later
  | case5 c rest noBreak noComma noNumber blank ih => exact ih mem
  | case6 c rest noBreak noComma noNumber noBlank ih =>
      rcases List.mem_cons.mp mem with same | later
      · cases same
      · exact ih later

/-- A literal whose rows have one length is read as the matrix of the values of its numbers. -/
theorem exists_readMatrix {text : List Char} {rows : List (List (List Char))}
    (inGrammar : LiteralText text rows) (rectangular : IsRectangular rows) :
    ∃ read : AnyMatrix Float, readMatrix text = .ok read ∧
      List.Forall₂ (List.Forall₂ ReadsAs) rows read.matrix.toRows := by
  obtain ⟨values, haveValues⟩ : ∃ values : List (List Float),
      List.Forall₂ (List.Forall₂ ReadsAs) rows values :=
    exists_forall₂ fun row inRows => exists_forall₂ fun word inRow =>
      Double.exists_read?_of_isPlainNumber (inGrammar.isPlainNumber row inRows word inRow)
  have isRead := readRows?_eq_some_iff.mpr ⟨rows, inGrammar, haveValues⟩
  have shape := (isRectangular_iff haveValues).mp rectangular
  obtain ⟨read, rfl⟩ := shape.exists_matrix
  exact ⟨read, readMatrix_eq_ok_iff.mpr ⟨shape.1, isRead⟩, haveValues⟩

/-- Any other text is no matrix. -/
theorem readMatrix_of_not_literal {text : List Char}
    (refused : ¬ ∃ rows, LiteralText text rows ∧ IsRectangular rows) :
    readMatrix (α := Float) text = .error .unreadable := by
  refine readMatrix_eq_error fun read isMatrix => refused ?_
  obtain ⟨nonempty, isRead⟩ := readMatrix_eq_ok_iff.mp isMatrix
  obtain ⟨rows, inGrammar, each⟩ := readRows?_eq_some_iff.mp isRead
  exact ⟨rows, inGrammar, (isRectangular_iff each).mpr (isRectangular_toRows nonempty)⟩

/-- A matrix literal is read as it is cut: at every row break, and each piece into the longest
numbers, where the pieces without numbers are left out. If the text has no other characters, at
least one row remains and all rows have one length, then the matrix has exactly these rows; any
other text is unreadable. The run token by token gives the same, every number token has a value
on the way, and no other halt than the reported error is possible. -/
theorem readMatrix_splits (text : List Char) :
    (∀ rows, LiteralText text rows → IsRectangular rows →
      ∃ read : AnyMatrix Float, readMatrix text = .ok read ∧
        List.Forall₂ (List.Forall₂ ReadsAs) rows read.matrix.toRows) ∧
    ((¬ ∃ rows, LiteralText text rows ∧ IsRectangular rows) →
      readMatrix (α := Float) text = .error .unreadable) ∧
    readMatrixRun (α := Float) text = (readMatrix text).mapError Halt.rejected ∧
    (∀ word, .ok (.number word) ∈ literalTokens text →
      ∃ value : Float, Numeral.read? word = some value) ∧
    ∀ halt, readMatrixRun (α := Float) text = .error halt → halt = .rejected .unreadable := by
  refine ⟨fun rows => exists_readMatrix, readMatrix_of_not_literal, readMatrixRun_eq text,
    fun word mem => Double.exists_read?_of_isPlainNumber (isPlainNumber_of_mem_literalTokens mem),
    fun halt halted => ?_⟩
  rw [readMatrixRun_eq] at halted
  cases answer : readMatrix (α := Float) text with
  | ok read =>
      rw [answer] at halted
      cases halted
  | error cause =>
      have unreadable : readMatrix (α := Float) text = .error .unreadable := by
        refine readMatrix_eq_error fun read isMatrix => ?_
        rw [answer] at isMatrix
        cases isMatrix
      rw [unreadable] at halted
      cases halted
      rfl

/-- Numbers that touch each other. -/
theorem readMatrix_splits_touching :
    let rows := [["1".toList, "-2".toList], ["1.2".toList, ".3".toList]]
    LiteralText "[1-2; 1.2.3]".toList rows ∧ IsRectangular rows ∧
      ∃ read : AnyMatrix Float, readMatrix "[1-2; 1.2.3]".toList = .ok read ∧
        List.Forall₂ (List.Forall₂ ReadsAs) rows read.matrix.toRows := by
  intro rows
  have longest {c : Char} {front rest : List Char} (taken : startsNumber c = true ∧
      (c :: front).any Char.isDigit = true ∧ digitRun (c == '.') (front ++ rest) = (front, rest)) :
      IsLongestNumber (c :: front) rest := isLongestNumber_iff.mpr taken
  have first : RowText (['1'] ++ (['-', '2'] ++ [])) ["1".toList, "-2".toList] :=
    .number (longest ⟨rfl, rfl, rfl⟩) (.number (longest ⟨rfl, rfl, rfl⟩) .nil)
  have second : RowText (' ' :: (['1', '.', '2'] ++ (['.', '3'] ++ [])))
      ["1.2".toList, ".3".toList] :=
    .separator rfl (.number (longest ⟨rfl, rfl, rfl⟩) (.number (longest ⟨rfl, rfl, rfl⟩) .nil))
  have inGrammar : LiteralText "[1-2; 1.2.3]".toList rows :=
    ⟨[[], _, _, []], .cons .nil (.cons first (.cons second (.cons .nil .nil))), rfl⟩
  have rectangular : IsRectangular rows := by
    refine ⟨List.cons_ne_nil _ _, ?_⟩
    decide
  exact ⟨inGrammar, rectangular, (readMatrix_splits _).1 rows inGrammar rectangular⟩

end Calculator.Linear
