import Elementwise.Number.Rounding

/-!
Binary floating point in its two sizes.  A `Binary` is the number that a bit pattern stands for: a
mantissa times a power of two with a sign, an infinity, or not a number.  Every operation whose
result must not depend on the machine is exact arithmetic on this form followed by one rounding,
`Format.nearest`.
-/

namespace Elementwise.Number

/-- A size of floating point: the bits of a mantissa, its leading one included, and the bits of an
exponent. -/
structure Format where
  precision : Nat
  exponentBits : Nat

inductive Binary where
  | nan
  | infinite (negative : Bool)
  | finite (negative : Bool) (mantissa : Nat) (exponent : Int)
  deriving DecidableEq

namespace Binary

def negative : Binary → Bool
  | nan => false
  | infinite s | finite s _ _ => s

def isNaN : Binary → Bool
  | nan => true
  | _ => false

def isFinite : Binary → Bool
  | finite .. => true
  | _ => false

def zero (negative : Bool) : Binary :=
  finite negative 0 0

/-- A mantissa times a power of two as a fraction. -/
def fraction (mantissa : Nat) : Int → Nat × Nat
  | .ofNat e => (mantissa * Nat.pow 2 e, 1)
  | .negSucc e => (mantissa, Nat.pow 2 (e + 1))

/-- The integer to which a finite number rounds. -/
def round? (r : Rounding) : Binary → Option Int
  | finite s m e =>
    let (num, den) := fraction m e
    let n := r.magnitude s num den
    some (if s then -(n : Int) else n)
  | _ => none

/-- Whether a finite number is an integer. -/
def isIntegral : Binary → Bool
  | finite _ m e =>
    let (num, den) := fraction m e
    num % den == 0
  | _ => false

end Binary

namespace Format

def single : Format := ⟨24, 8⟩

def double : Format := ⟨53, 11⟩

/-- The exponent of the smallest positive number, `2 ^ minExponent`. -/
def minExponent (f : Format) : Int :=
  3 - Nat.pow 2 (f.exponentBits - 1) - f.precision

/-- The largest exponent of a mantissa in full precision. -/
def maxExponent (f : Format) : Int :=
  Nat.pow 2 (f.exponentBits - 1) - f.precision

/-! ### Bit patterns -/

def decode (f : Format) (bits : Nat) : Binary :=
  let fractionSize := Nat.pow 2 (f.precision - 1)
  let exponentSize := Nat.pow 2 f.exponentBits
  let fraction := bits % fractionSize
  let exponent := bits / fractionSize % exponentSize
  let negative := bits / fractionSize / exponentSize % 2 == 1
  if exponent = exponentSize - 1 then if fraction = 0 then .infinite negative else .nan
  else if exponent = 0 then .finite negative fraction f.minExponent
  else .finite negative (fractionSize + fraction) (f.minExponent + exponent - 1)

/-- The bit pattern of a number that the format holds: a full mantissa, or the least exponent. -/
def encode (f : Format) (b : Binary) : Nat :=
  let fractionSize := Nat.pow 2 (f.precision - 1)
  let exponentSize := Nat.pow 2 f.exponentBits
  let sign (s : Bool) := if s then fractionSize * exponentSize else 0
  match b with
  | .nan => fractionSize * (exponentSize - 1) + fractionSize / 2
  | .infinite s => sign s + fractionSize * (exponentSize - 1)
  | .finite s m e =>
    if m < fractionSize then sign s + m
    else sign s + fractionSize * (e - f.minExponent + 1).toNat + (m - fractionSize)

/-! ### Rounding to the format -/

/-- The mantissa of `num / den` in units of `2 ^ e`, a tie going to the even one. -/
def mantissaAt (num den : Nat) : Int → Nat
  | .ofNat e => divEven num (den * Nat.pow 2 e)
  | .negSucc e => divEven (num * Nat.pow 2 (e + 1)) den

/-- The number of the format that is nearest to `num / den`; a tie goes to the even mantissa, and a
number beyond the largest finite one by half a unit or more becomes infinite. -/
def nearest (f : Format) (negative : Bool) (num den : Nat) : Binary :=
  if num = 0 then .finite negative 0 f.minExponent
  else
    -- the quotient lies between 2 ^ (top - 1) and 2 ^ (top + 1)
    let top : Int := (num.log2 : Int) - den.log2
    let low := max f.minExponent (top - f.precision)
    let floor := match low with
      | .ofNat e => num / (den * Nat.pow 2 e)
      | .negSucc e => num * Nat.pow 2 (e + 1) / den
    let e := if floor < Nat.pow 2 f.precision then low else low + 1
    let m := mantissaAt num den e
    let (m, e) := if m < Nat.pow 2 f.precision then (m, e) else (m / 2, e + 1)
    if f.maxExponent < e then .infinite negative else .finite negative m e

/-- The number of the format nearest to a mantissa times a power of two. -/
def nearestScaled (f : Format) (negative : Bool) (mantissa : Nat) (e : Int) : Binary :=
  let (num, den) := Binary.fraction mantissa e
  f.nearest negative num den

def ofInt (f : Format) (n : Int) : Binary :=
  f.nearest (n < 0) n.natAbs 1

/-- The same number in another size. -/
def convert (f : Format) : Binary → Binary
  | .finite s m e => f.nearestScaled s m e
  | b => b

/-- A number rounded to an integer; a result of zero keeps the sign. -/
def roundIntegral (f : Format) (r : Rounding) : Binary → Binary
  | .finite s m e =>
    let (num, den) := Binary.fraction m e
    f.nearest s (r.magnitude s num den) 1
  | b => b

/-- The remainder of the division truncated toward zero, which has the sign of the dividend and is
exact; no number when the dividend is infinite or the divisor zero. -/
def remainder (f : Format) : Binary → Binary → Binary
  | .finite s m e, .finite _ m' e' =>
    if m' = 0 then .nan
    else
      let low := min e e'
      let a := m * Nat.pow 2 (e - low).toNat
      let b := m' * Nat.pow 2 (e' - low).toNat
      f.nearestScaled s (a % b) low
  | x@(.finite ..), .infinite _ => x
  | _, _ => .nan

end Format

/-! ### The two sizes as machine numbers -/

def Binary.ofFloat (x : Float) : Binary :=
  Format.double.decode x.toBits.toNat

def Binary.toFloat (b : Binary) : Float :=
  Float.ofBits (UInt64.ofNat (Format.double.encode b))

def Binary.ofFloat32 (x : Float32) : Binary :=
  Format.single.decode x.toBits.toNat

def Binary.toFloat32 (b : Binary) : Float32 :=
  Float32.ofBits (UInt32.ofNat (Format.single.encode b))

/-- A single precision number as a double precision one. -/
def widen (x : Float32) : Float :=
  (Format.double.convert (.ofFloat32 x)).toFloat

/-- The single precision number nearest to a double precision one. -/
def narrow (x : Float) : Float32 :=
  (Format.single.convert (.ofFloat x)).toFloat32

def floatOfInt (n : Int) : Float :=
  (Format.double.ofInt n).toFloat

def float32OfInt (n : Int) : Float32 :=
  (Format.single.ofInt n).toFloat32

def roundFloat (r : Rounding) (x : Float) : Float :=
  (Format.double.roundIntegral r (.ofFloat x)).toFloat

def floatRemainder (x y : Float) : Float :=
  (Format.double.remainder (.ofFloat x) (.ofFloat y)).toFloat

def float32Remainder (x y : Float32) : Float32 :=
  (Format.single.remainder (.ofFloat32 x) (.ofFloat32 y)).toFloat32

end Elementwise.Number
