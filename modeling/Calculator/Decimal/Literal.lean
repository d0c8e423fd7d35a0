/-!
The written form of a number.

`Literal.read?` accepts an optional sign followed by `inf`, `infinity` or `nan` in any
letter case, or by decimal digits with at most one point (a digit on at least one side)
and an optional exponent. Nothing is rounded here: a literal keeps its digits and its
power of ten.
-/

namespace Calculator.Decimal

/-- The absolute value of a literal. `decimal c e` denotes `c · 10ᵉ`. -/
inductive Magnitude where
  | notANumber
  | infinite
  | decimal (coefficient : Nat) (exponent : Int)
  deriving DecidableEq, Repr

structure Literal where
  negative : Bool
  magnitude : Magnitude
  deriving DecidableEq, Repr

def digitsValue (digits : List Char) : Nat :=
  digits.foldl (fun value digit => 10 * value + (digit.toNat - '0'.toNat)) 0

/-- Split off an optional leading sign; `true` stands for a minus. -/
def readSign : List Char → Bool × List Char
  | '-' :: rest => (true, rest)
  | '+' :: rest => (false, rest)
  | rest => (false, rest)

theorem readSign_length (text : List Char) : (readSign text).2.length ≤ text.length := by
  unfold readSign
  split <;> simp

/-- Read an optional exponent, which has to take up the whole text: nothing at all, or
`e`, an optional sign and at least one digit. -/
def readExponent? : List Char → Option Int
  | [] => some 0
  | mark :: rest =>
      if mark = 'e' ∨ mark = 'E' then
        match readSign rest with
        | (negative, digits) =>
            if digits ≠ [] ∧ digits.all Char.isDigit then
              some (if negative then -(digitsValue digits : Int) else digitsValue digits)
            else none
      else none

/-- Split a point and the digits behind it from the front of a text. -/
def readFraction : List Char → List Char × List Char
  | '.' :: rest => (rest.takeWhile Char.isDigit, rest.dropWhile Char.isDigit)
  | rest => ([], rest)

/-- Read an unsigned decimal number that takes up the whole text. -/
def readDecimal? (text : List Char) : Option Magnitude :=
  let whole := text.takeWhile Char.isDigit
  match readFraction (text.dropWhile Char.isDigit) with
  | (fraction, tail) =>
      if whole = [] ∧ fraction = [] then none
      else
        (readExponent? tail).map fun exponent =>
          .decimal (digitsValue (whole ++ fraction)) (exponent - fraction.length)

/-- Read one of the words for a value that is not finite. -/
def readWord? (text : List Char) : Option Magnitude :=
  let word := text.map Char.toLower
  if word = "nan".toList then some .notANumber
  else if word = "inf".toList ∨ word = "infinity".toList then some .infinite
  else none

/-- Read a number that takes up the whole text. -/
def Literal.read? (text : List Char) : Option Literal :=
  match readSign text with
  | (negative, body) =>
      ((readDecimal? body).orElse fun _ => readWord? body).map (Literal.mk negative)

end Calculator.Decimal
