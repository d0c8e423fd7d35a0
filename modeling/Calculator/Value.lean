import Calculator.Linear.DenseMatrix
import Calculator.Number.Numeral

/-!
Answers: a number, a vector or a matrix, and their text.
-/

namespace Calculator

open Linear

inductive Value (α : Type) where
  | scalar (x : α)
  | vector {n : Nat} (v : Vector α n)
  | matrix {m n : Nat} (a : DenseMatrix α m n)

namespace Value

variable {α : Type}

def asScalar? : Value α → Option α
  | .scalar x => some x
  | _ => none

def vectorLength? : Value α → Option Nat
  | .vector (n := n) _ => some n
  | _ => none

def matrixShape? : Value α → Option (Nat × Nat)
  | .matrix (m := m) (n := n) _ => some (m, n)
  | _ => none

/-- Two values are equal if they have one shape and their numbers compare as equal. -/
instance [Arithmetic α] : BEq (Value α) where
  beq
    | .scalar x, .scalar y => x == y
    | .vector u, .vector v => u.toList == v.toList
    | .matrix (m := m) (n := n) a, .matrix (m := m') (n := n') b =>
        m == m' && n == n' && a.toRows == b.toRows
    | _, _ => false

/-! ### Text -/

def bracketed (items : List (List Char)) : List Char :=
  '[' :: List.intercalate [',', ' '] items ++ [']']

def vectorText (write : α → List Char) (entries : List α) : List Char :=
  bracketed (entries.map write)

def matrixText (write : α → List Char) (rows : List (List α)) : List Char :=
  bracketed (rows.map (vectorText write))

def text [Numeral α] : Value α → List Char
  | .scalar x => Numeral.write x
  | .vector v => vectorText Numeral.write v.toList
  | .matrix a => matrixText Numeral.write a.toRows

end Value

end Calculator
