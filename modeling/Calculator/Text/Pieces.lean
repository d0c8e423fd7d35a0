import Calculator.Text.Blank

/-!
Cutting a text into pieces.

`pieces` cuts a sequence at every item of a class and keeps empty pieces, so the pieces
joined by the items cut at give the sequence back; `words` cuts a text at blanks and
drops the empty ones. `cut?` cuts once, at the first occurrence of a character.
-/

namespace Calculator.Text

variable {β : Type}

/-- The pieces between the items of a class. There is always at least one. -/
def pieces (isCut : β → Bool) : List β → List (List β)
  | [] => [[]]
  | item :: rest =>
      if isCut item then [] :: pieces isCut rest
      else (pieces isCut rest).modifyHead (item :: ·)

def nonemptyPieces (isCut : β → Bool) (sequence : List β) : List (List β) :=
  (pieces isCut sequence).filter fun piece => !piece.isEmpty

/-- The maximal runs of characters that are not blank. -/
def words (text : List Char) : List (List Char) :=
  nonemptyPieces isBlank text

/-- What stands in front of the first `mark` and what stands behind it, if there is one. -/
def cut? (mark : Char) : List Char → Option (List Char × List Char)
  | [] => none
  | c :: rest =>
      if c = mark then some ([], rest)
      else (cut? mark rest).map fun parts => (c :: parts.1, parts.2)

/-- The text between the first `opening` and the first `closing` behind it, and what
follows that. -/
def enclosed? (opening closing : Char) (text : List Char) : Option (List Char × List Char) :=
  (cut? opening text).bind fun parts => cut? closing parts.2

end Calculator.Text
