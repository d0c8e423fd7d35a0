import Calculator.Text.Ranges

/-!
Blank characters, those with the Unicode property White_Space, and what depends on them:
trimming a text and cutting it into words.
-/

namespace Calculator.Text

/-- The ranges of blank characters, in ascending order. -/
def blankRanges : List (Nat × Nat) :=
  [(0x9, 0xD), (0x20, 0x20), (0x85, 0x85), (0xA0, 0xA0), (0x1680, 0x1680), (0x2000, 0x200A),
   (0x2028, 0x2029), (0x202F, 0x202F), (0x205F, 0x205F), (0x3000, 0x3000)]

def isBlank (c : Char) : Bool :=
  inRanges blankRanges c

def trimStart (text : List Char) : List Char :=
  text.dropWhile isBlank

def trim (text : List Char) : List Char :=
  ((trimStart text).reverse.dropWhile isBlank).reverse

def removeBlanks (text : List Char) : List Char :=
  text.filter fun c => !isBlank c

end Calculator.Text
