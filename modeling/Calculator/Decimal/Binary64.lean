/-!
Exact arithmetic on the magnitudes of binary64 numbers.

A magnitude is the natural number that its 63 bits below the sign spell; the order of
these numbers is the order of the values. `nearest` rounds a ratio of natural numbers,
`significand` and `exponent` take a magnitude apart again, and `remainder` divides
without rounding. All of it is integer arithmetic.
-/

namespace Calculator.Binary64

/-- The place value of the exponent in a magnitude, `2⁵²`; also the least significand of a
normal number. -/
def exponentPlace : Nat := 4503599627370496

/-- The magnitude of an infinite value: the least one above all finite values. -/
def infinity : Nat := 2047 * exponentPlace

/-- The integer nearest to `num / den`; a half goes to the even neighbour. -/
def roundHalfEven (num den : Nat) : Nat :=
  let quotient := num / den
  let twice := 2 * (num % den)
  if twice < den ∨ (twice = den ∧ quotient % 2 = 0) then quotient else quotient + 1

/-- The ratio `num / den` divided by `base ^ power`, again as a ratio. -/
def scale (base : Nat) (power : Int) (num den : Nat) : Nat × Nat :=
  match power with
  | .ofNat k => (num, den * base.pow k)
  | .negSucc k => (num * base.pow (k + 1), den)

/-- The greatest power of two that is at most the ratio `num / den`, by its exponent. -/
def floorLog2 (num den : Nat) : Int :=
  let guess : Int := (num.log2 : Int) - den.log2
  match scale 2 guess num den with
  | (n, d) => if d ≤ n then guess else guess - 1

/-- The magnitude nearest to `num / den`; a tie goes to the even significand, and what
lies beyond the finite range becomes infinite. -/
def nearest (num den : Nat) : Nat :=
  if num = 0 then 0
  else
    let unit := max (floorLog2 num den - 52) (-1074)
    match scale 2 unit num den with
    | (n, d) => min infinity ((unit + 1074).toNat * exponentPlace + roundHalfEven n d)

/-- The integer significand of a finite magnitude. -/
def significand (bits : Nat) : Nat :=
  if bits / exponentPlace = 0 then bits else exponentPlace + bits % exponentPlace

/-- The power of two that a finite magnitude's significand counts. -/
def exponent (bits : Nat) : Int :=
  if bits / exponentPlace = 0 then -1074 else (bits / exponentPlace : Nat) - 1075

/-- A finite magnitude as a ratio of natural numbers. -/
def ratio (bits : Nat) : Nat × Nat :=
  scale 2 (-exponent bits) (significand bits) 1

/-- The magnitude nearest to `coefficient · 10 ^ power`. Powers far outside the range
are settled by their size alone. -/
def ofDecimal (coefficient : Nat) (power : Int) : Nat :=
  match power with
  | .ofNat k =>
      if coefficient = 0 then 0
      else if 400 < k then infinity
      else nearest (coefficient * Nat.pow 10 k) 1
  | .negSucc k =>
      if coefficient.log2 + 1100 < 3 * (k + 1) then 0
      else nearest coefficient (Nat.pow 10 (k + 1))

/-- The remainder of the truncated division of one finite magnitude by another that is
not zero. It is always representable, so nothing is rounded. -/
def remainder (dividend divisor : Nat) : Nat :=
  let unit := min (exponent dividend) (exponent divisor)
  let units (bits : Nat) : Nat := significand bits * Nat.pow 2 (exponent bits - unit).toNat
  match scale 2 (-unit) (units dividend % units divisor) 1 with
  | (n, d) => nearest n d

end Calculator.Binary64
