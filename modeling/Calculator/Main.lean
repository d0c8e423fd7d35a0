import Calculator.Number.Double
import Calculator.Session

/-!
The calculator on the command line: each line of the input is answered in one session.
`:alg` and `:lin` change the mode; empty lines are skipped.
-/

namespace Calculator

/-- Answer one line: the text for the output or for the errors, and the session after
it. -/
def answerLine (session : Session Float) (line : List Char) :
    Option (Except String String) × Session Float :=
  if line = [] then (none, session)
  else if line = ":alg".toList then (none, session.setMode .algebraic)
  else if line = ":lin".toList then (none, session.setMode .linear)
  else
    match session.evaluate Expression.Context.empty line with
    | (.ok value, next) => (some (.ok (String.ofList value.text)), next)
    | (.error cause, next) =>
        (some (.error ("Unable to evaluate \"" ++ String.ofList line ++ "\": " ++
          cause.message)), next)

/-- Answer the lines of a stream until it ends. -/
partial def answerLines (input : IO.FS.Stream) (session : Session Float) : IO Unit := do
  let line ← input.getLine
  if line.isEmpty then return
  let (output, next) := answerLine session (Text.trim line.toList)
  match output with
  | some (.ok text) => IO.println text
  | some (.error text) => IO.eprintln text
  | none => pure ()
  answerLines input next

end Calculator

def main : IO Unit := do
  Calculator.answerLines (← IO.getStdin) (.start .standard)
