import Calculator.Config
import Calculator.Expression.Registry

/-!
The operators and functions every calculator starts with: arithmetic, roots and
logarithms, and the trigonometric and hyperbolic functions with their inverses. A value
outside a function's domain is an error, and so is a quotient without a value.
-/

namespace Calculator.Expression.Builtin

variable {α : Type} [Elementary α]

open Arithmetic Elementary

/-! ### Conditions on operands -/

/-- A divisor must not be zero; zero over zero is indeterminate. -/
def checkDivisor (dividend divisor : α) : Except EvalError Unit :=
  if divisor == 0 then
    .error (if dividend == 0 then .indeterminate else .divisionByZero)
  else .ok ()

/-- Apply a function where a condition on its operand holds. -/
def within (domain : α → Bool) (f : α → α) (x : α) : Except EvalError α :=
  if domain x then .ok (f x) else .error .outsideDomain

/-- One over a number that is not too close to zero. -/
def reciprocal (tolerance x : α) : Except EvalError α :=
  if below (abs x) tolerance then .error .divisionByZero else .ok (1 / x)

/-! ### Operations -/

def quotient (left right : α) : Except EvalError α :=
  (checkDivisor left right).map fun _ => left / right

/-- The remainder of a division, with the sign of the dividend. -/
def modulo (left right : α) : Except EvalError α :=
  (checkDivisor left right).map fun _ => remainder left right

/-- A power of a number. Zero to the power zero is indeterminate, and zero has no negative power. -/
def raise (base exponent : α) : Except EvalError α :=
  if base == 0 && exponent == 0 then .error .indeterminate
  else if base == 0 && below exponent 0 then .error .divisionByZero
  else .ok (power base exponent)

def squareRoot (x : α) : Except EvalError α :=
  if below x 0 then .error .negativeRoot else .ok (sqrt x)

/-- The inverse cotangent, a right angle at zero. -/
def arccot (unit : AngleUnit) (x : α) : Except EvalError α :=
  .ok (if x == 0 then unit.rightAngle else unit.fromRadians (arctan (1 / x)))

/-- The inverse hyperbolic cosecant, which has a pole at zero. -/
def arcsch (x : α) : Except EvalError α :=
  if x == 0 then .error .divisionByZero else .ok (arsinh (1 / x))

/-! ### Tables -/

/-- A binary operator of two numbers. -/
def between (symbol : String) (precedence : Precedence) (f : α → α → Except EvalError α) :
    Operator α :=
  .infixed symbol.toList precedence (.ofBinary f)

/-- A unary operator or function of a number. -/
def before (symbol : String) (f : α → Except EvalError α) : Operator α :=
  .prefixed symbol.toList (.ofUnary f)

/-- Arithmetic, and the two signs. -/
def arithmetic : List (Operator α) :=
  [between "+" .additive fun x y => .ok (x + y),
   between "-" .additive fun x y => .ok (x - y),
   between "*" .multiplicative fun x y => .ok (x * y),
   between "/" .multiplicative quotient,
   between "%" .multiplicative modulo,
   between "^" .exponential raise,
   before "-" fun x => .ok (-x),
   before "+" .ok]

def rootsAndLogarithms : List (Operator α) :=
  [before "sqrt" squareRoot,
   before "exp" fun x => .ok (exp x),
   before "log" (within (below 0) log10),
   before "lg" (within (below 0) log2),
   before "ln" (within (below 0) ln)]

/-- The trigonometric functions for a unit of angles. A reciprocal fails where its
denominator is below the tolerance. -/
def trigonometric (unit : AngleUnit) (tolerance : α) : List (Operator α) :=
  let inside (x : α) : Bool := atMost (abs x) 1
  let outside (x : α) : Bool := atMost 1 (abs x)
  [before "sin" fun x => .ok (sin (unit.toRadians x)),
   before "cos" fun x => .ok (cos (unit.toRadians x)),
   before "tan" fun x => .ok (tan (unit.toRadians x)),
   before "cot" fun x => reciprocal tolerance (tan (unit.toRadians x)),
   before "sec" fun x => reciprocal tolerance (cos (unit.toRadians x)),
   before "csc" fun x => reciprocal tolerance (sin (unit.toRadians x)),
   before "arcsin" (within inside fun x => unit.fromRadians (arcsin x)),
   before "arccos" (within inside fun x => unit.fromRadians (arccos x)),
   before "arctan" fun x => .ok (unit.fromRadians (arctan x)),
   before "arccot" (arccot unit),
   before "arcsec" (within outside fun x => unit.fromRadians (arccos (1 / x))),
   before "arccsc" (within outside fun x => unit.fromRadians (arcsin (1 / x)))]

/-- The hyperbolic functions and their inverses. A reciprocal fails where its denominator is
below the tolerance. -/
def hyperbolic (tolerance : α) : List (Operator α) :=
  [before "sinh" fun x => .ok (sinh x),
   before "cosh" fun x => .ok (cosh x),
   before "tanh" fun x => .ok (tanh x),
   before "coth" fun x => reciprocal tolerance (tanh x),
   before "sech" fun x => reciprocal tolerance (cosh x),
   before "csch" fun x => reciprocal tolerance (sinh x),
   before "arcsinh" fun x => .ok (arsinh x),
   before "arccosh" (within (atMost 1) arcosh),
   before "arctanh" (within (fun x => below (abs x) 1) artanh),
   before "arccoth" (within (fun x => below 1 (abs x)) fun x =>
     1 / ((2 : Nat) : α) * ln ((x + 1) / (x - 1))),
   before "arcsech" (within (fun x => below 0 x && atMost x 1) fun x => arcosh (1 / x)),
   before "arccsch" arcsch]

def operators (config : Config α) : List (Operator α) :=
  arithmetic ++ rootsAndLogarithms ++ trigonometric config.angleUnit config.poleTolerance ++
    hyperbolic config.poleTolerance

def registry (config : Config α) : Registry α :=
  Registry.empty.registerAll (operators config)

end Calculator.Expression.Builtin
