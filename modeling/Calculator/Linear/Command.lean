import Calculator.Config
import Calculator.Linear.Determinant
import Calculator.Linear.MatrixLiteral
import Calculator.Linear.Orthogonal
import Calculator.Linear.System
import Calculator.Text.CommandWord
import Calculator.Value

/-!
Commands on systems and matrices: `qr` and `ortho` give the orthogonal factor of a
matrix, `eigen` estimates of its eigenvalues, and `cramer` solves a system by Cramer's
rule. Everything else is a system to be solved by elimination.
-/

namespace Calculator.Linear

variable {α : Type} [Arithmetic α] [Numeral α]

def solveByElimination (config : Config α) (text : List Char) : Except LinearError (Value α) :=
  (readSystem text).bind fun system =>
    (gaussJordan system.coefficients system.constants config.pivotTolerance).map .vector

def solveByCramersRule (config : Config α) (text : List Char) : Except LinearError (Value α) :=
  (readSystem text).bind fun system =>
    (cramersRule system.coefficients system.constants config.pivotTolerance).map .vector

/-- Solve a system, by Cramer's rule if the text starts with `cramer`. -/
def solveSystem (config : Config α) (text : List Char) : Except LinearError (Value α) :=
  match Text.commandArgument? "cramer".toList text with
  | some system => solveByCramersRule config system
  | none => solveByElimination config text

def orthogonalFactor (config : Config α) (text : List Char) : Except LinearError (Value α) :=
  (readMatrix text).bind fun read =>
    (gramSchmidt read.matrix config.pivotTolerance).map fun factors => .matrix factors.q

def eigenvalueEstimates (config : Config α) (text : List Char) :
    Except LinearError (Value α) :=
  (readMatrix text).bind fun read =>
    (eigenvalues read.matrix config.eigenvalueRounds config.pivotTolerance).map .vector

/-- Answer a text: a command with its argument, or a system. -/
def respond (config : Config α) (text : List Char) : Except LinearError (Value α) :=
  match (Text.commandArgument? "qr".toList text).or (Text.commandArgument? "ortho".toList text) with
  | some matrix => orthogonalFactor config matrix
  | none =>
      match Text.commandArgument? "eigen".toList text with
      | some matrix => eigenvalueEstimates config matrix
      | none => solveSystem config text

end Calculator.Linear
