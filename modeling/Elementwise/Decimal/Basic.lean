import Elementwise.Number.Rounding
import Elementwise.Text.Numeral

/-!
Decimal numbers: a coefficient below `2 ^ 96` with a sign and a scale, the count of its digits after
the point, of at most 28.  The scale is part of the value as written, so `1.5` and `1.50` are
distinct decimals that are numerically equal; zero may carry a sign.
-/

namespace Elementwise

def Decimal.coefficientBound : Nat :=
  Nat.pow 2 96

def Decimal.maxScale : Nat :=
  28

structure Decimal where
  negative : Bool
  coefficient : Nat
  scale : Nat
  coefficient_lt : coefficient < Decimal.coefficientBound
  scale_le : scale ≤ Decimal.maxScale
  deriving DecidableEq

namespace Decimal

open Number

def zero : Decimal :=
  ⟨false, 0, 0, by decide, by decide⟩

def one : Decimal :=
  ⟨false, 1, 0, by decide, by decide⟩

/-- The greatest decimal. -/
def largest : Decimal :=
  ⟨false, coefficientBound - 1, 0, by decide, by decide⟩

def isZero (d : Decimal) : Bool :=
  d.coefficient == 0

/-- The decimal with these parts, if the coefficient and the scale are in range. -/
def ofParts? (negative : Bool) (coefficient scale : Nat) : Option Decimal :=
  if h : coefficient < coefficientBound ∧ scale ≤ maxScale then
    some ⟨negative, coefficient, scale, h.1, h.2⟩
  else none

/-- The decimal without a sign if it is zero. -/
def unsignZero (d : Decimal) : Decimal :=
  { d with negative := d.negative && !d.isZero }

def ofInt? (n : Int) : Option Decimal :=
  ofParts? (n < 0) n.natAbs 0

/-- The exact value as a fraction with the denominator `10 ^ scale`. -/
def numerator (d : Decimal) : Int :=
  if d.negative then -(d.coefficient : Int) else d.coefficient

def denominator (d : Decimal) : Nat :=
  Nat.pow 10 d.scale

/-! ### Order -/

protected def compare (a b : Decimal) : Ordering :=
  compare (a.numerator * b.denominator) (b.numerator * a.denominator)

/-- Whether two decimals are the same number, whatever their scales. -/
def sameNumber (a b : Decimal) : Bool :=
  a.compare b == .eq

/-! ### Sign -/

def neg (d : Decimal) : Decimal :=
  { d with negative := !d.negative }

def abs (d : Decimal) : Decimal :=
  { d with negative := false }

/-! ### Rounding -/

theorem divEven_le_self {n d : Nat} (h : 2 ≤ d) : divEven n d ≤ n := by
  have hd : d * (n / d) + n % d = n := Nat.div_add_mod n d
  have hlt : n % d < d := Nat.mod_lt _ (by omega)
  have hmul : 2 * (n / d) ≤ d * (n / d) := Nat.mul_le_mul_right _ h
  have hparity : n / d % 2 ≤ n / d := Nat.mod_le _ _
  unfold divEven
  dsimp only
  split
  · omega
  · split <;> omega

/-- The decimal with `places` digits after the point that is nearest, a tie going to the even last
digit; unchanged if it has no more digits than that, except that a zero takes the scale. -/
def roundTo (d : Decimal) (places : Nat) : Decimal :=
  if h : d.isZero ∧ places ≤ maxScale then { d with scale := places, scale_le := h.2 }
  else if h : places < d.scale then
    let dropped := d.scale - places
    unsignZero
      { d with
        coefficient := divEven d.coefficient (Nat.pow 10 dropped)
        scale := places
        coefficient_lt := Nat.lt_of_le_of_lt
          (divEven_le_self (Nat.le_trans (by decide : 2 ≤ Nat.pow 10 1)
            (Nat.pow_le_pow_right (by decide) (by omega)))) d.coefficient_lt
        scale_le := Nat.le_trans (Nat.le_of_lt h) d.scale_le }
  else d

/-- The decimal without its digits after the point; the sign stays even if zero is left. -/
def truncate (d : Decimal) : Decimal :=
  { d with
    coefficient := d.coefficient / Nat.pow 10 d.scale
    scale := 0
    coefficient_lt := Nat.lt_of_le_of_lt (Nat.div_le_self _ _) d.coefficient_lt
    scale_le := Nat.zero_le _ }

/-- Whether there is a digit other than zero after the point. -/
def hasFraction (d : Decimal) : Bool :=
  d.coefficient % Nat.pow 10 d.scale != 0

/-- The integer left by truncation. -/
def toInt (d : Decimal) : Int :=
  d.truncate.numerator

/-! ### Text -/

/-- All digits of the coefficient with the point set by the scale, and at least one digit before
it. -/
def text (d : Decimal) : List Char :=
  let ds := Text.padded (d.scale + 1) d.coefficient
  let point := ds.length - d.scale
  let body := if d.scale = 0 then ds else ds.take point ++ '.' :: ds.drop point
  if d.negative then '-' :: body else body

end Decimal

end Elementwise
