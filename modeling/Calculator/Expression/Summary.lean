import Calculator.Expression.Registry
import Calculator.Text.Quoted

/-!
Operators and registries in words: the symbols of a registry in the order of their bytes,
and what an operator is registered as.
-/

namespace Calculator.Expression

def Precedence.name : Precedence → String
  | .loosest => "None"
  | .additive => "AddSub"
  | .multiplicative => "MultiDiv"
  | .exponential => "Pow"
  | .unary => "Unary"

def Arity.name : Arity → String
  | .unary => "Unary"
  | .binary => "Binary"

variable {α : Type}

def Operator.summary (operator : Operator α) : List Char :=
  "OperatorEntry \x7b symbol: ".toList ++ Text.quoted operator.symbol ++
    ", arity: ".toList ++ operator.arity.name.toList ++
    ", precedence: ".toList ++ operator.precedence.name.toList ++ " \x7d".toList

/-- The symbols of a table in quotes, in the order of their bytes. -/
def OperatorTable.summary (table : OperatorTable α) : List Char :=
  '[' :: List.intercalate [',', ' '] ((sortByBytes table.symbols).map Text.quoted) ++ [']']

def Registry.summary (registry : Registry α) : List Char :=
  "OperatorRegistry \x7b binary: ".toList ++ registry.binary.summary ++
    ", unary: ".toList ++ registry.unary.summary ++ " \x7d".toList

end Calculator.Expression
