import Calculator.Decimal.Literal
import Calculator.Failure
import Calculator.Linear.DenseMatrix
import Calculator.Number.Numeral
import Calculator.Text.Pieces

/-!
Systems of linear equations, and their text.

An equation is a sum of terms set equal to a number; a term is a number, a letter, or a
number followed by a letter, with a sign. `System.ofEquations?` numbers the letters in
the order in which they first occur and collects their coefficients; numbers on the left
move to the right. `System.text` writes a system in the form that `readSystem` reads.
-/

namespace Calculator.Linear

variable {α : Type}

/-! ### Equations -/

/-- A term with its sign: a multiple of a letter, or a number if there is no letter. -/
structure Term (α : Type) where
  coefficient : α
  letter : Option Char

structure Equation (α : Type) where
  terms : List (Term α)
  right : α

namespace Equation

/-- The letters of an equation, with repetitions. -/
def letters (equation : Equation α) : List Char :=
  equation.terms.filterMap Term.letter

variable [Arithmetic α]

/-- The coefficient of a letter: the sum of its terms, added to zero from left to right. -/
def coefficientOf (equation : Equation α) (letter : Char) : α :=
  equation.terms.foldl (fun sum term =>
    if term.letter = some letter then sum + term.coefficient else sum) 0

/-- The constant of an equation: the number on the right less the numbers on the left,
from left to right. -/
def constant (equation : Equation α) : α :=
  equation.terms.foldl (fun sum term =>
    if term.letter = none then sum - term.coefficient else sum) equation.right

end Equation

/-! ### Reading an equation -/

section Reading

variable [Arithmetic α] [Numeral α]

/-- Read a finite number that takes up the whole text. -/
def readFinite? (text : List Char) : Option α :=
  (Numeral.read? text).filter Arithmetic.isFinite

/-- Can the character be part of a term behind its sign? -/
def isTermCharacter (c : Char) : Bool :=
  c.isDigit || c == '.' || c.isAlpha

/-- Read a term without its sign. A letter at the end is the unknown; without a number in
front of it its coefficient is one. -/
def readUnsigned? (text : List Char) : Option (Term α) :=
  match text.getLast? with
  | none => none
  | some last =>
      if last.isAlpha then
        let number := text.dropLast
        if number.isEmpty then some ⟨1, some last⟩
        else (readFinite? number).map fun coefficient => ⟨coefficient, some last⟩
      else (readFinite? text).map fun coefficient => ⟨coefficient, none⟩

def Term.signed (negative : Bool) (term : Term α) : Term α :=
  { term with coefficient := (if negative then -1 else 1) * term.coefficient }

theorem length_dropWhile_lt {p : Char → Bool} {text : List Char}
    (nonempty : ¬ text.takeWhile p = []) : (text.dropWhile p).length < text.length := by
  have whole := congrArg List.length (List.takeWhile_append_dropWhile (p := p) (l := text))
  have taken := List.length_pos_iff.mpr nonempty
  rw [List.length_append] at whole
  omega

/-- Read a sum of terms. Each term ends where no character of a term follows, so all but
the first need a sign. -/
def readTerms? (text : List Char) : Option (List (Term α)) :=
  if text = [] then some []
  else
    let body := (Decimal.readSign text).2
    if body.takeWhile isTermCharacter = [] then none
    else
      (readUnsigned? (body.takeWhile isTermCharacter)).bind fun term =>
        (readTerms? (body.dropWhile isTermCharacter)).map
          (term.signed (Decimal.readSign text).1 :: ·)
termination_by text.length
decreasing_by
  rename_i nonempty
  exact Nat.lt_of_lt_of_le (length_dropWhile_lt nonempty) (Decimal.readSign_length text)

/-- Read an equation without blanks. -/
def readEquation? (text : List Char) : Option (Equation α) :=
  (Text.cut? '=' text).bind fun sides =>
    (readFinite? sides.2).bind fun right =>
      (readTerms? sides.1).map fun terms => ⟨terms, right⟩

end Reading

/-! ### Systems -/

/-- A square system of linear equations: the matrix of the coefficients, the right-hand
side, and the unknown of each column. -/
structure System (α : Type) where
  size : Nat
  coefficients : DenseMatrix α size size
  constants : Vector α size
  unknowns : Vector Char size

namespace System

variable [Arithmetic α]

/-- Collect the coefficients of equations that have as many unknowns as there are
equations. -/
def ofEquations? (equations : List (Equation α)) : Option (System α) :=
  let unknowns := (equations.flatMap Equation.letters).eraseDups
  if square : unknowns.length = equations.length then
    some {
      size := equations.length
      coefficients := .ofFn fun i j =>
        (equations.get i).coefficientOf (unknowns.get (j.cast square.symm))
      constants := .ofFn fun i => (equations.get i).constant
      unknowns := .ofFn fun j => unknowns.get (j.cast square.symm) }
  else none

/-- Two systems are equal if they have the same unknowns and their numbers compare as
equal. -/
instance : BEq (System α) where
  beq s t :=
    s.unknowns.toList == t.unknowns.toList && s.coefficients.toRows == t.coefficients.toRows &&
      s.constants.toList == t.constants.toList

/-! ### Text of a system -/

variable [Numeral α]

/-- A term behind its sign; a coefficient of magnitude one is left out. -/
def termText (coefficient : α) (unknown : Char) : List Char :=
  let size := Arithmetic.abs coefficient
  (if size == 1 then [] else Numeral.write size) ++ [unknown]

/-- A sum of terms; the first has a sign only if it is negative. -/
def sumText : List (α × Char) → List Char
  | [] => ['0']
  | first :: others =>
      (if Arithmetic.below first.1 0 then ['-'] else []) ++ termText first.1 first.2 ++
        others.flatMap fun term =>
          (if Arithmetic.below term.1 0 then [' ', '-', ' '] else [' ', '+', ' ']) ++
            termText term.1 term.2

/-- One equation of a system. Terms with the coefficient zero are left out. -/
def equationText (system : System α) (i : Fin system.size) : List Char :=
  let terms := (List.finRange system.size).map fun j =>
    (system.coefficients.entry i j, system.unknowns.get j)
  sumText (terms.filter fun term => !(term.1 == 0)) ++ [' ', '=', ' '] ++
    Numeral.write (system.constants.get i)

/-- The equations of a system, separated by semicolons. -/
def text (system : System α) : List Char :=
  List.intercalate [';', ' '] ((List.finRange system.size).map system.equationText)

end System

/-- Read a system of equations, separated by semicolons. Blanks do not count and empty
equations are left out. -/
def readSystem [Arithmetic α] [Numeral α] (text : List Char) : Except LinearError (System α) :=
  match Text.nonemptyPieces (· == ';') (Text.removeBlanks text) with
  | [] => .error .unreadable
  | equations =>
      match (equations.mapM readEquation?).bind System.ofEquations? with
      | some system => .ok system
      | none => .error .unreadable

end Calculator.Linear
