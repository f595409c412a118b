import Elementwise.Eval.Arguments
import Elementwise.Library.Builtin
import Elementwise.Value.Order
import Elementwise.Decimal.Arithmetic

/-!
The functions of mathematics.  Rounding takes ties to the even neighbour; in double precision,
rounding to digits after the point scales, rounds and scales back.
-/

namespace Elementwise.Eval

open Number

/-! ### Sign and magnitude -/

/-- The signed words that have a magnitude: all but the least of each kind. -/
def abs (v : Value) : Outcome :=
  match v with
  | .number (.word k w) =>
    if k.signed then
      match Word.ofInt? k w.val.natAbs with
      | some w => .ok (.number (.word k w))
      | none => .error (.overflow v.text v.kindName)
    else .error (.unexpected v "Math.Abs")
  | .number (.single x) => .ok (.single x.abs)
  | .number (.double x) => .ok (.double x.abs)
  | .number (.decimal d) => .ok (.decimal d.abs)
  | v => .error (.unexpected v "Math.Abs")

def signValue (n : Int) : Value :=
  .int32 (.wrap .int32 n.sign)

def floatSign (x : Float) : Outcome :=
  if x.isNaN then .error (.invalidArgument .notANumberSign)
  else .ok (signValue (if x > 0 then 1 else if x < 0 then -1 else 0))

def sign (v : Value) : Outcome :=
  match v with
  | .number (.word k w) =>
    if k.signed then .ok (signValue w.val) else .error (.unexpected v "Math.Sign")
  | .number (.single x) => floatSign (widen x)
  | .number (.double x) => floatSign x
  | .number (.decimal d) => .ok (signValue d.numerator)
  | v => .error (.unexpected v "Math.Sign")

/-! ### Rounding -/

/-- Rounds a double to so many digits after the point, if scaling by them is possible. -/
def roundDigits (x : Float) (digits : Nat) : Float :=
  let scale := floatOfInt (Nat.pow 10 digits)
  let scaled := x * scale
  if digits = 0 then roundFloat .toEven x
  else if (Binary.ofFloat scaled).isFinite then roundFloat .toEven scaled / scale
  else x

/-- The most digits after the point that a value can be rounded to. -/
def roundingLimit : Value → Nat
  | .number (.decimal _) => Decimal.maxScale
  | _ => 15

def round (v : Value) (digits : Int) : Outcome :=
  if digits < 0 ∨ roundingLimit v < digits then
    .error (.invalidArgument (.roundingDigits (roundingLimit v)))
  else
    match v with
    | .number (.double x) => .ok (.double (roundDigits x digits.toNat))
    | .number (.decimal d) => .ok (.decimal (d.roundTo digits.toNat))
    | v => .error (.unexpected v "Math.Round")

/-- A function on numbers with fractions to an integer of the same kind. -/
def toIntegral (r : Rounding) (onDecimal : Decimal → Option Decimal) (v : Value) : Outcome :=
  match v with
  | .number (.double x) => .ok (.double (roundFloat r x))
  | .number (.decimal d) =>
    match onDecimal d with
    | some d => .ok (.decimal d)
    | none => .error (.overflow v.text v.kindName)
  | v => .error (.unexpected v "Math")

/-! ### Extrema -/

/-- The larger or the smaller of two numbers, and what is no number before both. -/
def maxOrMin (left right : Value) (largest : Bool) : Outcome :=
  if left.isNaN then .ok left
  else if right.isNaN then .ok right
  else
    match left.compare? right with
    | some ordering =>
      .ok (if (if largest then ordering.isGE else ordering.isLE) then left else right)
    | none => .error (.internal "unordered Math.Max operands")

/-! ### Functions of doubles -/

def mathFunction : MathFunction → Float → Float
  | .sqrt => Float.sqrt
  | .exp => Float.exp
  | .log => Float.log
  | .log10 => Float.log10
  | .sin => Float.sin
  | .cos => Float.cos
  | .tan => Float.tan

end Elementwise.Eval
