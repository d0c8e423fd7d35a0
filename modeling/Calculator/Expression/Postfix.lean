import Calculator.Expression.Token

/-!
From infix to postfix order.

Numbers and names pass through in their order; operators, functions and opening
parentheses wait on a stack. An operator first releases what binds at least as tightly
as itself, a closing parenthesis releases everything of its group. The only failure is
an unbalanced parenthesis.
-/

namespace Calculator.Expression

/-- What waits for its place in the output: an open group, or something to apply. -/
inductive Pending where
  | group
  | operator (symbol : List Char)
  | function (symbol : List Char)
  deriving DecidableEq, Repr

variable {α : Type}

def Pending.token : Pending → Token α
  | .group => .openParen
  | .operator symbol => .operator symbol
  | .function symbol => .function symbol

/-- How tightly a waiting entry binds, if it can be released by an operator. -/
def Pending.precedence? (registry : Registry α) : Pending → Option Precedence
  | .group => none
  | .operator symbol => some (registry.binaryPrecedence symbol)
  | .function _ => some .unary

/-- Does a waiting entry go out before the operator `incoming` is set aside? It does if it
binds tighter, or equally tight and the operator groups from left to right. -/
def isReleasedBy (registry : Registry α) (incoming : List Char) (waiting : Pending) : Bool :=
  let level := (registry.binaryPrecedence incoming).level
  match waiting.precedence? registry with
  | none => false
  | some precedence =>
      level < precedence.level || (level == precedence.level && groupsFromLeft incoming)

/-- Close the innermost group: the entries it releases and those that go on waiting. A
function in front of the group applies to it and is released as well. Without an open
group there is nothing to close. -/
def closeGroup? : List Pending → Option (List Pending × List Pending)
  | [] => none
  | .group :: .function symbol :: rest => some ([.function symbol], rest)
  | .group :: rest => some ([], rest)
  | waiting :: rest =>
      (closeGroup? rest).map fun parts => (waiting :: parts.1, parts.2)

/-- The postfix order of the tokens still to come, with a stack of waiting entries whose
head is the latest. -/
def convert (registry : Registry α) : List Pending → List (Token α) →
    Except EvalError (List (Token α))
  | pending, [] =>
      if Pending.group ∈ pending then .error .operandMismatch
      else .ok (pending.map Pending.token)
  | pending, .number value :: rest =>
      (convert registry pending rest).map (Token.number value :: ·)
  | pending, .identifier name :: rest =>
      (convert registry pending rest).map (Token.identifier name :: ·)
  | pending, .function symbol :: rest => convert registry (.function symbol :: pending) rest
  | pending, .openParen :: rest => convert registry (.group :: pending) rest
  | pending, .operator symbol :: rest =>
      let released := pending.takeWhile (isReleasedBy registry symbol)
      let kept := pending.dropWhile (isReleasedBy registry symbol)
      (convert registry (.operator symbol :: kept) rest).map (released.map Pending.token ++ ·)
  | pending, .closeParen :: rest =>
      match closeGroup? pending with
      | none => .error .operandMismatch
      | some (released, kept) =>
          (convert registry kept rest).map (released.map Pending.token ++ ·)

/-- The tokens of an expression in postfix order. -/
def postfixOrder [Numeral α] (registry : Registry α) (text : List Char) :
    Except EvalError (List (Token α)) :=
  convert registry [] (tokensOf registry text)

end Calculator.Expression
