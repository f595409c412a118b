import Elementwise.Decimal.Arithmetic

/-!
Reading decimals.  The plain notation is digits, with underscores among them and at most one point;
a fraction beyond the largest scale or coefficient is rounded at its next digit, and what follows
that digit is not looked at.  The scientific notation adds an exponent, which moves the scale.
-/

namespace Elementwise.Decimal

/-- What has been read of a decimal. -/
structure Reading where
  coefficient : Nat
  scale : Nat
  pointSeen : Bool
  digitSeen : Bool

namespace Reading

def close (r : Reading) (negative : Bool) : Option Decimal :=
  if r.digitSeen then (ofParts? negative r.coefficient r.scale).map unsignZero else none

/-- Ends at a character for which there is no room, rounding half up if it is a digit. -/
def roundAt (r : Reading) (negative : Bool) (c : Char) : Option Decimal :=
  let digit? : Option Nat :=
    if Text.isAsciiDigit c then some (c.toNat - 48)
    else if c = '_' || (c = '.' && !r.pointSeen) then some 0
    else none
  match digit? with
  | none => none
  | some digit =>
    if digit < 5 then r.close negative
    else
      let n := r.coefficient + 1
      if n < coefficientBound then { r with coefficient := n }.close negative
      else if r.scale = 0 then none
      else { r with coefficient := (n + 4) / 10, scale := r.scale - 1 }.close negative

/-- Reads the characters that follow. -/
def run (negative : Bool) (r : Reading) : List Char → Option Decimal
  | [] => r.close negative
  | c :: cs =>
    if r.pointSeen && maxScale ≤ r.scale then r.roundAt negative c
    else if Text.isAsciiDigit c then
      let n := r.coefficient * 10 + (c.toNat - 48)
      if n < coefficientBound then
        run negative
          { r with
            coefficient := n
            digitSeen := true
            scale := if r.pointSeen then r.scale + 1 else 0 }
          cs
      else if r.pointSeen then r.roundAt negative c
      else none
    else if c = '.' && !r.pointSeen then run negative { r with pointSeen := true } cs
    else if c = '_' && r.digitSeen then run negative r cs
    else none

end Reading

/-- A decimal in plain notation with an optional sign. -/
def plain? (cs : List Char) : Option Decimal :=
  let start : Reading := ⟨0, 0, false, false⟩
  match cs with
  | '-' :: cs => start.run true cs
  | '+' :: cs => start.run false cs
  | cs => start.run false cs

/-- A natural number below `2 ^ 32` with an optional plus sign. -/
def exponent? (cs : List Char) : Option Nat :=
  let ds := match cs with
    | '+' :: ds => ds
    | ds => ds
  (Text.natural? ds).filter (· < Nat.pow 2 32)

/-- The factors whose product is a power of ten, as large as a quotient of words allows. -/
def powerFactors (e : Nat) : List Nat :=
  if e ≤ 18 then [Nat.pow 10 e] else [Nat.pow 10 19, Nat.pow 10 (e - 19)]

/-- The decimal without the zeros at the end of its fraction. -/
def normalize (d : Decimal) : Decimal :=
  if d.isZero then zero
  else go d.coefficient d.scale
    d.coefficient_lt d.scale_le
where
  go (n scale : Nat) (hn : n < coefficientBound) (hs : scale ≤ maxScale) : Decimal :=
    match scale with
    | 0 => ⟨d.negative, n, 0, hn, hs⟩
    | scale + 1 =>
      if n % 10 = 0 then
        go (n / 10) scale (Nat.lt_of_le_of_lt (Nat.div_le_self _ _) hn)
          (Nat.le_trans (Nat.le_succ _) hs)
      else ⟨d.negative, n, scale + 1, hn, hs⟩

/-- A decimal in scientific notation: a plain decimal and an exponent of at most 28 either way.  A
negative exponent adds to the scale, a positive one first takes from it. -/
def scientific? (cs : List Char) : Option Decimal :=
  let isMark (c : Char) : Bool := c = 'e' || c = 'E'
  match cs.dropWhile (!isMark ·) with
  | [] => none
  | _ :: exponent =>
    match plain? (cs.takeWhile (!isMark ·)) with
    | none => none
    | some d =>
      let withScale (scale : Nat) := ofParts? d.negative d.coefficient scale
      match exponent with
      | '-' :: exponent => (exponent? exponent).bind fun e => withScale (d.scale + e)
      | exponent => (exponent? exponent).bind fun e =>
        if e ≤ d.scale then withScale (d.scale - e)
        else if maxScale < e then none
        else
          let product := (powerFactors e).foldlM (fun d n =>
            (ofParts? false n 0).bind (mul? d)) d
          product.map normalize

/-- A decimal in either notation. -/
def parse? (cs : List Char) : Option Decimal :=
  match plain? cs with
  | some d => some d
  | none => scientific? cs

end Elementwise.Decimal
