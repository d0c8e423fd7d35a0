/-!
The text of integers and of decimal numbers, both without an exponent.
-/

namespace Calculator.Decimal

def digits (n : Nat) : List Char :=
  Nat.toDigits 10 n

def padLeft (width : Nat) (text : List Char) : List Char :=
  List.replicate (width - text.length) '0' ++ text

/-- `coefficient · 10 ^ power` written without an exponent. A point is written only in
front of fraction digits, and a digit always precedes it. -/
def positional (coefficient : Nat) (power : Int) : List Char :=
  match power with
  | .ofNat k => digits coefficient ++ List.replicate (if coefficient = 0 then 0 else k) '0'
  | .negSucc k =>
      let padded := padLeft (k + 2) (digits coefficient)
      let whole := padded.length - (k + 1)
      padded.take whole ++ '.' :: padded.drop whole

def integer : Int → List Char
  | .ofNat n => digits n
  | .negSucc n => '-' :: digits (n + 1)

end Calculator.Decimal
