import Calculator.Text.Printable

/-!
Texts in quotes. A quote, a backslash and the common controls are escaped by a letter,
every other character that is not printable by its code point.
-/

namespace Calculator.Text

/-- A character as it stands between quotes. -/
def escape (c : Char) : List Char :=
  if c = '\t' then ['\\', 't']
  else if c = '\r' then ['\\', 'r']
  else if c = '\n' then ['\\', 'n']
  else if c = '\\' then ['\\', '\\']
  else if c = '"' then ['\\', '"']
  else if c.toNat = 0 then ['\\', '0']
  else if isPrintable c then [c]
  else ['\\', 'u', '\x7b'] ++ Nat.toDigits 16 c.toNat ++ ['\x7d']

def quoted (text : List Char) : List Char :=
  '"' :: text.flatMap escape ++ ['"']

end Calculator.Text
