import Calculator.Expression.Operator
import Calculator.Expression.SymbolOrder

/-!
The operators an expression may use.

A registry has one table for the operators between two operands and one for those in
front of an operand, so one symbol can stand for both. A table keeps its operators in
the order of `ComesBefore`, which makes it determined by what it contains: the order in
which different symbols were registered cannot be seen.
-/

namespace Calculator.Expression

variable {α : Type}

/-! ### Tables -/

/-- Put an operator in its place in a sorted list, over an earlier one of its symbol. -/
def insertOperator (operator : Operator α) : List (Operator α) → List (Operator α)
  | [] => [operator]
  | other :: rest =>
      if ComesBefore operator.symbol other.symbol then operator :: other :: rest
      else if other.symbol = operator.symbol then operator :: rest
      else other :: insertOperator operator rest

theorem mem_of_mem_insertOperator {operator x : Operator α} {operators : List (Operator α)}
    (mem : x ∈ insertOperator operator operators) : x = operator ∨ x ∈ operators := by
  induction operators with
  | nil => simpa [insertOperator] using mem
  | cons other rest ih =>
      unfold insertOperator at mem
      split at mem
      · simpa using mem
      · split at mem
        · rcases List.mem_cons.mp mem with eq | inRest
          · exact .inl eq
          · exact .inr (List.mem_cons_of_mem _ inRest)
        · rcases List.mem_cons.mp mem with eq | inRest
          · exact .inr (eq ▸ List.mem_cons_self)
          · exact (ih inRest).imp_right (List.mem_cons_of_mem _)

theorem insertOperator_sorted (operator : Operator α) {operators : List (Operator α)}
    (sorted : operators.Pairwise fun a b => ComesBefore a.symbol b.symbol) :
    (insertOperator operator operators).Pairwise fun a b => ComesBefore a.symbol b.symbol := by
  induction operators with
  | nil => simp [insertOperator]
  | cons other rest ih =>
      obtain ⟨otherBefore, restSorted⟩ := List.pairwise_cons.mp sorted
      unfold insertOperator
      split
      · rename_i before
        refine List.pairwise_cons.mpr ⟨fun x mem => ?_, sorted⟩
        rcases List.mem_cons.mp mem with eq | inRest
        · exact eq ▸ before
        · exact before.trans (otherBefore x inRest)
      · rename_i notBefore
        split
        · rename_i same
          exact List.pairwise_cons.mpr ⟨fun x mem => same ▸ otherBefore x mem, restSorted⟩
        · rename_i differ
          refine List.pairwise_cons.mpr ⟨fun x mem => ?_, ih restSorted⟩
          rcases mem_of_mem_insertOperator mem with eq | inRest
          · exact eq ▸ comesBefore_of_not notBefore differ
          · exact otherBefore x inRest

/-- Operators of distinct symbols, in the order in which they are tried. -/
structure OperatorTable (α : Type) where
  operators : List (Operator α)
  sorted : operators.Pairwise fun a b => ComesBefore a.symbol b.symbol

namespace OperatorTable

def empty : OperatorTable α := ⟨[], .nil⟩

/-- Add an operator; it replaces an earlier one of the same symbol. -/
def insert (table : OperatorTable α) (operator : Operator α) : OperatorTable α :=
  ⟨insertOperator operator table.operators, insertOperator_sorted operator table.sorted⟩

def find? (table : OperatorTable α) (symbol : List Char) : Option (Operator α) :=
  table.operators.find? fun operator => operator.symbol == symbol

def symbols (table : OperatorTable α) : List (List Char) :=
  table.operators.map Operator.symbol

end OperatorTable

/-! ### Registries -/

/-- The operators an expression may use, by arity. -/
structure Registry (α : Type) where
  binary : OperatorTable α
  unary : OperatorTable α

namespace Registry

def empty : Registry α := ⟨.empty, .empty⟩

/-- Add an operator to the table of its arity. -/
def register (registry : Registry α) (operator : Operator α) : Registry α :=
  match operator.arity with
  | .binary => { registry with binary := registry.binary.insert operator }
  | .unary => { registry with unary := registry.unary.insert operator }

def registerAll (registry : Registry α) (operators : List (Operator α)) : Registry α :=
  operators.foldl register registry

def table (registry : Registry α) : Arity → OperatorTable α
  | .binary => registry.binary
  | .unary => registry.unary

def get? (registry : Registry α) (symbol : List Char) (arity : Arity) : Option (Operator α) :=
  (registry.table arity).find? symbol

def isBinary (registry : Registry α) (symbol : List Char) : Bool :=
  (registry.get? symbol .binary).isSome

def isUnary (registry : Registry α) (symbol : List Char) : Bool :=
  (registry.get? symbol .unary).isSome

/-- How tightly a symbol binds, by its binary form if it has both. -/
def precedence? (registry : Registry α) (symbol : List Char) : Option Precedence :=
  ((registry.get? symbol .binary).or (registry.get? symbol .unary)).map Operator.precedence

/-- How tightly a symbol binds between two operands; an unknown one binds loosest. -/
def binaryPrecedence (registry : Registry α) (symbol : List Char) : Precedence :=
  ((registry.get? symbol .binary).map Operator.precedence).getD .loosest

/-- The binary symbols, in the order in which they are tried. -/
def scanOrder (registry : Registry α) : List (List Char) :=
  registry.binary.symbols

def apply (registry : Registry α) (symbol : List Char) (arity : Arity) (operands : List α) :
    Except EvalError α :=
  match registry.get? symbol arity with
  | some operator => operator.operation operands
  | none => .error .unknownName

end Registry

/-- Everything except exponentiation groups from left to right. -/
def groupsFromLeft (symbol : List Char) : Bool :=
  symbol != ['^']

end Calculator.Expression
