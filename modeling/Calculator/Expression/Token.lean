import Calculator.Expression.Registry
import Calculator.Expression.Spacing
import Calculator.Number.Numeral

/-!
Tokens of an expression.

Each word of the spaced text is one token. A word that reads as a number is one whatever
is registered; a symbol that is registered both ways stands for its binary form exactly
if it follows an operand.
-/

namespace Calculator.Expression

/-- A token: a number, a binary operator, a function or unary operator, a name to be
looked up, or a parenthesis. -/
inductive Token (α : Type) where
  | number (value : α)
  | operator (symbol : List Char)
  | function (symbol : List Char)
  | identifier (name : List Char)
  | openParen
  | closeParen
  deriving DecidableEq, Repr

namespace Token

variable {α : Type}

/-- Can the token be the last one of an operand? -/
def endsOperand : Token α → Bool
  | .number _ | .identifier _ | .closeParen => true
  | .operator _ | .function _ | .openParen => false

def text [Numeral α] : Token α → List Char
  | .number value => Numeral.write value
  | .operator symbol | .function symbol => symbol
  | .identifier name => name
  | .openParen => ['(']
  | .closeParen => [')']

end Token

variable {α : Type} [Numeral α]

/-- The token a word stands for, given whether it follows an operand. -/
def classify (registry : Registry α) (followsOperand : Bool) (word : List Char) : Token α :=
  if word = ['('] then .openParen
  else if word = [')'] then .closeParen
  else
    match Numeral.read? word with
    | some value => .number value
    | none =>
        match registry.isBinary word, registry.isUnary word with
        | true, true => if followsOperand then .operator word else .function word
        | false, true => .function word
        | true, false => .operator word
        | false, false => .identifier word

def classifyWords (registry : Registry α) (followsOperand : Bool) :
    List (List Char) → List (Token α)
  | [] => []
  | word :: rest =>
      let token := classify registry followsOperand word
      token :: classifyWords registry token.endsOperand rest

/-- The tokens of an expression. -/
def tokensOf (registry : Registry α) (text : List Char) : List (Token α) :=
  classifyWords registry false (Text.words (spaced registry.scanOrder text))

end Calculator.Expression
