import Elementwise.Decimal.Basic
import Elementwise.Number.Binary

/-!
Conversions between decimals and binary floating point.  From binary, the mantissa is turned into a
decimal one in 96 bits and then cut down to the digits that the format guarantees.  To binary, the
whole and the fractional part are divided out separately and the sum is rounded to the scale.
-/

namespace Elementwise.Decimal

open Number

/-! ### From binary -/

/-- A mantissa on its way from a power of two to a power of ten: the number is
`mantissa * 5 ^ -fives * 10 ^ tens`. -/
structure Rebasing where
  mantissa : Nat
  fives : Int
  tens : Int

namespace Rebasing

/-- Works off positive powers of five in the denominator: a factor of two is taken out of the
mantissa where it has one, otherwise five is multiplied in while there is room, and without room
the mantissa loses a bit. -/
def up : (count : Nat) → Nat → Int → Nat × Int
  | 0, m, tens => (m, tens)
  | count + 1, m, tens =>
    if m % 2 = 0 then up count (m / 2) (tens + 1)
    else if 5 * m < coefficientBound then up count (5 * m) tens
    else up count (m / 2) (tens + 1)

/-- Works off positive powers of five in the numerator of the inverse: the mantissa is doubled while
there is room and divided by five otherwise. -/
def down : (count : Nat) → Nat → Int → Nat × Int
  | 0, m, tens => (m, tens)
  | count + 1, m, tens =>
    if 2 * m < coefficientBound then down count (2 * m) (tens - 1)
    else down count (m / 5) tens

end Rebasing

/-- Multiplies by ten as often as `count` says, while there is room. -/
def raise? : (count : Nat) → Nat → Option Nat
  | 0, m => some m
  | count + 1, m => if 10 * m < coefficientBound then raise? count (10 * m) else none

/-- A tenth, a last digit of five or more rounding up. -/
def tenth (m : Nat) : Nat :=
  if 5 ≤ m % 10 then m / 10 + 1 else m / 10

/-- Lowers a mantissa to the largest scale, and to scale zero if nothing is left of it. -/
def lower : (steps : Nat) → (m scale : Nat) → Nat × Nat
  | 0, m, scale => (m, scale)
  | steps + 1, m, scale =>
    if scale ≤ maxScale then (m, scale)
    else if m / 10 = 0 then (0, 0)
    else lower steps (tenth m) (scale - 1)

/-- Rounds digits away while the mantissa is longer than the format guarantees. -/
def limit (bound : Nat) : (scale m : Nat) → Nat × Nat
  | 0, m => (m, 0)
  | scale + 1, m => if bound ≤ m then limit bound scale (tenth m) else (m, scale + 1)

/-- Takes zeros off the end of the fraction. -/
def trimZeros : (scale m : Nat) → Nat × Nat
  | 0, m => (m, 0)
  | scale + 1, m => if m % 10 = 0 then trimZeros scale (m / 10) else (m, scale + 1)

/-- The bound from which on a decimal mantissa has digits that the format does not guarantee. -/
def digitBound (f : Format) : Nat :=
  if f.precision ≤ 24 then Nat.pow 2 24 else Nat.pow 2 52

/-- The decimal for a finite number of a format, with no more digits than the format guarantees. -/
def ofBinary? (f : Format) : Binary → Option Decimal
  | .finite negative m e =>
    if m = 0 then ofParts? negative 0 0
    else
      let (m, tens) :=
        if e < 0 then Rebasing.up e.natAbs m e else Rebasing.down e.natAbs m e
      let start? : Option (Nat × Nat) :=
        if 0 < tens then (raise? tens.natAbs m).map (·, 0) else some (m, tens.natAbs)
      start?.bind fun (m, scale) =>
        let (m, scale) := lower scale m scale
        let (m, scale) := limit (digitBound f) scale m
        let (m, scale) := trimZeros scale m
        (ofParts? negative m scale).map unsignZero
  | _ => none

/-! ### To binary -/

/-- A power of ten by repeated squaring in double precision, least significant bit first. -/
def floatPower (base : Float) : (fuel n : Nat) → (result : Float) → Float
  | 0, _, result => result
  | fuel + 1, n, result =>
    let result := if n % 2 = 1 then result * base else result
    if n / 2 = 0 then result else floatPower (base * base) fuel (n / 2) result

def powerOfTen (n : Nat) : Float :=
  floatPower 10 (n + 1) n 1

/-- The integer nearest to a number, as a number; halves go away from zero. -/
def roundHalfAway (x : Float) : Float :=
  match Binary.ofFloat x with
  | .finite s m e =>
    let (num, den) := Binary.fraction m e
    (Format.double.nearest s (divHalfUp num den) 1).toFloat
  | _ => x

def toFloat (d : Decimal) : Float :=
  if d.scale = 0 then floatOfInt d.numerator
  else
    let whole := floatOfInt (d.coefficient / d.denominator)
    let fraction := floatOfInt (d.coefficient % d.denominator) / floatOfInt d.denominator
    let magnitude :=
      if fraction == 0 then whole
      else
        let unit := powerOfTen d.scale
        roundHalfAway ((whole + fraction) * unit) / unit
    if d.negative then -magnitude else magnitude

end Elementwise.Decimal
