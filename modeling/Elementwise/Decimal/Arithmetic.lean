import Elementwise.Decimal.Basic

/-!
Arithmetic of decimals.  A sum, difference or product is the exact result, rounded only as far as
its coefficient or scale has to shrink, a tie going to the even digit.  A quotient that does not
come out even is computed in groups of digits, and the zeros this leaves at its end are taken off
again in groups too, so a few of them may stay.
-/

namespace Elementwise.Decimal

open Number

/-! ### Fitting an exact result -/

/-- The decimal nearest to `num / den` with the largest scale up to `scale` at which its coefficient
fits. -/
def fit (negative : Bool) (num den : Nat) : (scale : Nat) → Option Decimal
  | 0 => ofParts? negative (divEven num den) 0
  | scale + 1 =>
    match ofParts? negative (divEven (num * Nat.pow 10 (scale + 1)) den) (scale + 1) with
    | some d => some d
    | none => fit negative num den scale

/-- The exact number `n / 10 ^ scale` as a decimal. -/
def ofScaled? (n : Int) (scale : Nat) : Option Decimal :=
  (fit (n < 0) n.natAbs (Nat.pow 10 scale) (min scale maxScale)).map unsignZero

/-! ### Sums and products -/

/-- A sum; zero leaves the other operand as it is, with its scale. -/
def add? (a b : Decimal) : Option Decimal :=
  if a.isZero then some b
  else if b.isZero then some a
  else
    let scale := max a.scale b.scale
    let m := a.numerator * Nat.pow 10 (scale - a.scale)
    let n := b.numerator * Nat.pow 10 (scale - b.scale)
    ofScaled? (m + n) scale

def sub? (a b : Decimal) : Option Decimal :=
  add? a (if b.isZero then b else b.neg)

/-- A product; it is a plain zero if a factor is zero, or if the exact product of two short
coefficients has no digit in reach of the largest scale. -/
def mul? (a b : Decimal) : Option Decimal :=
  let short (d : Decimal) : Bool := d.coefficient < Nat.pow 2 32
  if a.isZero || b.isZero then some zero
  else if short a && short b && maxScale + 19 < a.scale + b.scale then some zero
  else ofScaled? (a.numerator * b.numerator) (a.scale + b.scale)

/-! ### Quotients -/

/-- The most digits, up to `limit`, by which the coefficient can grow. -/
def room (coefficient : Nat) : (limit : Nat) → Nat
  | 0 => 0
  | limit + 1 =>
    if coefficient * Nat.pow 10 (limit + 1) < coefficientBound then limit + 1
    else room coefficient limit

/-- A quotient under way: the digits found, what is left to divide, and the scale of the digits,
which may still be negative. -/
structure Division where
  quotient : Nat
  remainder : Nat
  scale : Int

namespace Division

/-- Rounds the digits by what is left, a tie going to the even digit. -/
def close (v : Division) (divisor : Nat) : Division :=
  let twice := 2 * v.remainder
  let up := divisor < twice || (divisor == twice && v.quotient % 2 == 1)
  { v with quotient := if up then v.quotient + 1 else v.quotient }

/-- Takes `count` more digits. -/
def extend (v : Division) (divisor count : Nat) : Division :=
  let num := v.remainder * Nat.pow 10 count
  ⟨v.quotient * Nat.pow 10 count + num / divisor, num % divisor, v.scale + count⟩

/-- Gives up the last digit of a quotient that outgrew the coefficient. -/
def shrink (v : Division) : Option Division :=
  if v.scale < 1 then none
  else
    let last := v.quotient % 10
    let rest := v.quotient / 10
    let up := 5 < last || (last == 5 && (v.remainder != 0 || rest % 2 == 1))
    some ⟨if up then rest + 1 else rest, v.remainder, v.scale - 1⟩

def fits (v : Division) : Bool :=
  v.quotient < coefficientBound

/-- Adds digits in groups of up to nine until the division comes out even or the coefficient or the
scale is used up; `steps` bounds the number of groups. -/
def run (divisor : Nat) : (steps : Nat) → Division → Option Division
  | 0, _ => none
  | steps + 1, v =>
    if v.remainder = 0 then
      if 0 ≤ v.scale then some v
      else
        let v := v.extend divisor (min 9 v.scale.natAbs)
        if v.fits then run divisor steps v else none
    else
      let count := room v.quotient (min 9 ((maxScale : Int) - v.scale).toNat)
      if count < 9 && v.scale + count < 0 then none
      else if count = 0 then
        let v := v.close divisor
        if v.fits then some v else v.shrink
      else
        let v := v.extend divisor count
        if v.fits then run divisor steps v else v.shrink

end Division

/-- Takes `count` zeros off the end if there are as many. -/
def dropZeros (count : Nat) (d : Nat × Nat) : Nat × Nat :=
  let (n, scale) := d
  if count ≤ scale && n % Nat.pow 10 count == 0 then (n / Nat.pow 10 count, scale - count) else d

/-- Takes eight zeros at a time off the end of a number whose lowest 32 bits are clear. -/
def dropEights : (steps : Nat) → Nat × Nat → Nat × Nat
  | 0, d => d
  | steps + 1, (n, scale) =>
    if n % Nat.pow 2 32 == 0 && 8 ≤ scale && n % Nat.pow 10 8 == 0 then
      dropEights steps (n / Nat.pow 10 8, scale - 8)
    else (n, scale)

/-- Takes zeros off the end of a quotient: groups of eight where the bits show them, then at most
four, two and one. -/
def dropQuotientZeros (d : Nat × Nat) : Nat × Nat :=
  dropZeros 1 (dropZeros 2 (dropZeros 4 (dropEights 3 d)))

/-- A quotient, for a divisor other than zero.  One that comes out even at once keeps the difference
of the scales. -/
def div? (a b : Decimal) : Option Decimal :=
  if a.isZero then some zero
  else
    let start : Division :=
      ⟨a.coefficient / b.coefficient, a.coefficient % b.coefficient, (a.scale : Int) - b.scale⟩
    match start.run b.coefficient 64 with
    | none => none
    | some v =>
      let (n, scale) :=
        if start.remainder = 0 then (v.quotient, v.scale.toNat)
        else dropQuotientZeros (v.quotient, v.scale.toNat)
      (ofParts? (a.negative != b.negative) n scale).map unsignZero

/-! ### Remainders -/

/-- The remainder of the division truncated toward zero, for a divisor other than zero.  It has the
larger scale, unless the dividend is the smaller number, which is then left as it is, or the two
are the same up to sign, which leaves a plain zero. -/
def rem (a b : Decimal) : Option Decimal :=
  if a.isZero then some zero
  else
    match a.abs.compare b.abs with
    | .lt => some a
    | .eq => some zero
    | .gt =>
      let scale := max a.scale b.scale
      let n := a.coefficient * Nat.pow 10 (scale - a.scale)
      let m := b.coefficient * Nat.pow 10 (scale - b.scale)
      (ofParts? a.negative (n % m) scale).map unsignZero

/-! ### Neighbouring integers -/

def floor? (d : Decimal) : Option Decimal :=
  if d.scale = 0 then some d
  else if d.negative && d.hasFraction then sub? d.truncate one
  else some d.truncate

def ceiling? (d : Decimal) : Option Decimal :=
  if d.scale = 0 then some d
  else if !d.negative && d.hasFraction then add? d.truncate one
  else some d.truncate

end Elementwise.Decimal
