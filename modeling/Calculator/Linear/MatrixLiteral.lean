import Calculator.Failure
import Calculator.Linear.DenseMatrix
import Calculator.Number.Numeral
import Calculator.Text.Pieces

/-!
Matrices as text.

A matrix is written as numbers, of which brackets and semicolons separate the rows.
Between the numbers of a row there may be commas and blanks, or nothing where a number
cannot go on. A number is an optional minus and digits with at most one point.
-/

namespace Calculator.Linear

variable {α : Type} [Numeral α]

/-- The longest start of a text that consists of digits and at most one point, or of
digits alone behind a point, and what follows it. -/
def digitRun (behindPoint : Bool) : List Char → List Char × List Char
  | [] => ([], [])
  | c :: rest =>
      if c.isDigit || (c == '.' && !behindPoint) then
        let parts := digitRun (behindPoint || c == '.') rest
        (c :: parts.1, parts.2)
      else ([], c :: rest)

theorem digitRun_length (behindPoint : Bool) (text : List Char) :
    (digitRun behindPoint text).2.length ≤ text.length := by
  induction text generalizing behindPoint with
  | nil => exact Nat.le_refl _
  | cons c rest ih =>
      unfold digitRun
      split
      · exact Nat.le_trans (ih _) (Nat.le_succ _)
      · exact Nat.le_refl _

def isRowBreak (c : Char) : Bool :=
  c == '[' || c == ']' || c == ';'

def startsNumber (c : Char) : Bool :=
  c.isDigit || c == '-' || c == '.'

/-- The numbers of a matrix literal, with `none` for each row break. It fails at a
character that has no place in one and at a number without a digit. -/
def readCells? : List Char → Option (List (Option α))
  | [] => some []
  | c :: rest =>
      if isRowBreak c then (readCells? rest).map (none :: ·)
      else if startsNumber c then
        let run := digitRun (c == '.') rest
        let word := c :: run.1
        if word.any Char.isDigit then
          (Numeral.read? word).bind fun value => (readCells? run.2).map (some value :: ·)
        else none
      else if c == ',' || Text.isBlank c then readCells? rest
      else none
termination_by text => text.length
decreasing_by
  all_goals first
    | exact Nat.lt_succ_self _
    | exact Nat.lt_succ_of_le (digitRun_length _ _)

/-- The rows of a matrix literal: the numbers between row breaks, where there are any. -/
def rowsOfCells (cells : List (Option α)) : List (List α) :=
  (Text.nonemptyPieces Option.isNone cells).map List.reduceOption

/-- Read a matrix: at least one row, and all rows of one length. -/
def readMatrix (text : List Char) : Except LinearError (AnyMatrix α) :=
  match (readCells? text).map rowsOfCells with
  | none => .error .unreadable
  | some [] => .error .unreadable
  | some (row :: rows) =>
      match AnyMatrix.ofRows? (row :: rows) with
      | some matrix => .ok matrix
      | none => .error .unreadable

end Calculator.Linear
