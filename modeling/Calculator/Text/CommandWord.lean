import Calculator.Text.Alphanumeric
import Calculator.Text.Blank

/-!
Command words in front of a text.
-/

namespace Calculator.Text

def isWordCharacter (c : Char) : Bool :=
  isAlphanumeric c || c == '_'

/-- The argument of a command: what follows `word` at the start of the text, trimmed. The
word has to end there, so neither a letter or number nor `_` may follow it. -/
def commandArgument? (word text : List Char) : Option (List Char) :=
  let start := trimStart text
  if word.isPrefixOf start then
    let rest := start.drop word.length
    if (rest.head?.map isWordCharacter).getD false then none else some (trim rest)
  else none

end Calculator.Text
