import Calculator.Decimal.Binary64

/-!
Decimal digits for binary64 magnitudes.

`shortest` finds the fewest digits that read back as the same magnitude, and the nearest
value among those. On each decimal grid only the two neighbours of the value can be such
a value, so it tries the grids from coarse to fine and asks `Binary64.ofDecimal` about
the two.
-/

namespace Calculator.Decimal

open Binary64

def digitCount (n : Nat) : Nat :=
  (Nat.toDigits 10 n).length

/-- The greatest power of ten that is at most the positive ratio `num / den`, by its
exponent. -/
def floorLog10 (num den : Nat) : Int :=
  if den ≤ num then (digitCount (num / den) : Int) - 1
  else -(digitCount ((den - 1) / num) : Int)

/-- Move trailing zeros of a coefficient into its power of ten. -/
def stripZeros (coefficient : Nat) (power : Int) : Nat × Int :=
  if 0 < coefficient ∧ coefficient % 10 = 0 then stripZeros (coefficient / 10) (power + 1)
  else (coefficient, power)
termination_by coefficient

/-- Does a decimal, given by its coefficient and its power of ten, read back as `bits`? -/
def readsBack (bits : Nat) (decimal : Nat × Int) : Bool :=
  ofDecimal decimal.1 decimal.2 == bits

/-- The decimal on the grid of step `10 ^ power` that reads back as `bits`. If both
neighbours of the value do, the nearer one is taken, and the upper one at equal
distance. -/
def gridPoint? (bits : Nat) (power : Int) : Option (Nat × Int) :=
  match scale 10 power (ratio bits).1 (ratio bits).2 with
  | (n, d) =>
    let lower := stripZeros (n / d) power
    let upper := stripZeros (n / d + 1) power
    match readsBack bits lower, readsBack bits upper with
    | true, true => some (if 2 * (n % d) < d then lower else upper)
    | true, false => some lower
    | false, true => some upper
    | false, false => none

/-- The whole decimal expansion of a finite magnitude. -/
def expansion (bits : Nat) : Nat × Int :=
  match exponent bits with
  | .ofNat k => (significand bits * Nat.pow 2 k, 0)
  | .negSucc k => (significand bits * Nat.pow 5 (k + 1), -(k + 1 : Nat))

/-- The shortest decimal that reads back as a finite magnitude, as a coefficient and a
power of ten. Seventeen digits always suffice; the expansion stands behind them. -/
def shortest (bits : Nat) : Nat × Int :=
  if bits = 0 then (0, 0)
  else
    let top := floorLog10 (ratio bits).1 (ratio bits).2
    let hit := (List.range 17).findSome? fun (i : Nat) => gridPoint? bits (top - i)
    hit.getD (expansion bits)

end Calculator.Decimal
