import Elementwise.Number.Binary
import Elementwise.Text.Numeral

/-!
Shortest decimal digits.  Of all decimal numbers that round to a given binary one, `shortest` takes
those with the fewest digits, and of these the nearest.  The search tries one digit, then two, and
so on; on each decimal grid only the two neighbours of the number have to be tried, since a grid
with a point that rounds to the number has one that is a neighbour.
-/

namespace Elementwise.Number

/-- A positive decimal number in scientific form: the first digit stands before the point, and the
last digit is not zero. -/
structure Scientific where
  digits : List Char
  exponent : Int
  deriving DecidableEq

/-- Which neighbour a number halfway between two of them goes to. -/
inductive Tie where
  | up | even
  deriving DecidableEq

/-- The reals that round to a positive number of a format, in units of `1 / den`. -/
structure RoundingInterval where
  low : Nat
  value : Nat
  high : Nat
  den : Nat
  closed : Bool

namespace RoundingInterval

/-- The interval around `mantissa * 2 ^ e`.  Its ends are halfway to the neighbours, of which the
lower one is nearer where the exponent changes; a tie goes to the even mantissa, so the ends belong
to it exactly when this mantissa is even. -/
def of (f : Format) (mantissa : Nat) (e : Int) : RoundingInterval :=
  let narrow := mantissa == Nat.pow 2 (f.precision - 1) && f.minExponent < e
  let (scale, den) := Binary.fraction 1 (e - 2)
  { low := (4 * mantissa - if narrow then 1 else 2) * scale
    value := 4 * mantissa * scale
    high := (4 * mantissa + 2) * scale
    den := den
    closed := mantissa % 2 == 0 }

/-- Whether `num / den` lies in the interval. -/
def contains (i : RoundingInterval) (num den : Nat) : Bool :=
  let x := num * i.den
  let lo := i.low * den
  let hi := i.high * den
  if i.closed then lo ≤ x && x ≤ hi else lo < x && x < hi

/-- The nearest point of the grid of the multiples of `10 ^ k` that lies in the interval. -/
def gridPoint? (i : RoundingInterval) (tie : Tie) (k : Int) : Option Nat :=
  let (up, down) := match k with
    | .ofNat k => (Nat.pow 10 k, 1)
    | .negSucc k => (1, Nat.pow 10 (k + 1))
  -- the value in units of the grid is `i.value * down / (i.den * up)`
  let num := i.value * down
  let den := i.den * up
  let below := num / den
  let twice := 2 * (num % den)
  let nearBelow := twice < den || (twice == den && tie == .even && below % 2 == 0)
  let first := if nearBelow then below else below + 1
  let second := if nearBelow then below + 1 else below
  if first != 0 && i.contains (first * up) down then some first
  else if second != 0 && i.contains (second * up) down then some second
  else none

/-- The first grid point found while the grid gets finer. -/
def search (i : RoundingInterval) (tie : Tie) : (count : Nat) → (k : Int) → Option (Nat × Int)
  | 0, _ => none
  | count + 1, k =>
    match i.gridPoint? tie k with
    | some d => some (d, k)
    | none => search i tie count (k - 1)

end RoundingInterval

/-- Digits without the zeros at their end. -/
def stripZeros (ds : List Char) : List Char :=
  (ds.reverse.dropWhile (· == '0')).reverse

/-- The scientific form of `d * 10 ^ k`. -/
def Scientific.ofScaled (d : Nat) (k : Int) : Scientific :=
  let ds := Text.digits d
  ⟨stripZeros ds, k + ds.length - 1⟩

/-- An upper bound of the exponent of the power of ten just above a fraction. -/
def decimalExponentBound (num den : Nat) : Int :=
  -- 1233 / 4096 falls a little short of the logarithm of two, for which the two at the end make up
  (((num.log2 : Int) - den.log2 + 1) * 1233) / 4096 + 2

/-- The shortest digits of a positive number of a format. -/
def shortest (f : Format) (tie : Tie) (mantissa : Nat) (e : Int) : Scientific :=
  let i := RoundingInterval.of f mantissa e
  match i.search tie 24 (decimalExponentBound i.value i.den) with
  | some (d, k) => Scientific.ofScaled d k
  | none => ⟨[], 0⟩

end Elementwise.Number
