import Calculator.Expression.Builtin
import Calculator.Expression.Command
import Calculator.Linear.Command

/-!
A calculator session.

A session remembers its mode, its operators and its last scalar answer. In algebraic mode
the last answer is available as `Ans`, behind the variables given with a text; in linear
mode a text is answered from the settings alone.
-/

namespace Calculator

open Expression

/-- What a session takes a text to be: an expression, or a linear system or matrix. -/
inductive Mode where
  | algebraic
  | linear
  deriving DecidableEq, Repr

structure Session (α : Type) where
  config : Config α
  mode : Mode
  registry : Registry α
  lastAnswer : Option α

namespace Session

variable {α : Type}

def answerName : List Char :=
  "Ans".toList

/-- A session at its start: algebraic mode, the built-in operators, no answer yet. -/
def start [Elementary α] (config : Config α) : Session α where
  config := config
  mode := .algebraic
  registry := Builtin.registry config
  lastAnswer := none

def setMode (session : Session α) (mode : Mode) : Session α :=
  { session with mode := mode }

def register (session : Session α) (operator : Operator α) : Session α :=
  { session with registry := session.registry.register operator }

def answerContext (session : Session α) : Context α :=
  fun name => if name = answerName then session.lastAnswer else none

variable [Arithmetic α] [Numeral α]

/-- The answer to a text in the current mode. -/
def respond (session : Session α) (context : Context α) (text : List Char) :
    Except Failure (Value α) :=
  match session.mode with
  | .algebraic =>
      Expression.respond session.registry session.config
        (context.orElse session.answerContext) text
  | .linear => (Linear.respond session.config text).mapError Failure.linear

/-- Remember an answer if it is a scalar. -/
def remember (session : Session α) : Except Failure (Value α) → Session α
  | .ok (.scalar x) => { session with lastAnswer := some x }
  | _ => session

/-- Answer a text and remember a scalar answer. -/
def evaluate (session : Session α) (context : Context α) (text : List Char) :
    Except Failure (Value α) × Session α :=
  let result := session.respond context text
  (result, session.remember result)

end Session

end Calculator
