import Elementwise.Json.Basic

/-!
Reading JSON numbers.  Digits are collected in a 64-bit significand as long as they fit, and a
number with a fraction, an exponent or too many digits is that significand times a power of ten in
double precision: one multiplication or division, so the result may be a neighbour of the nearest
double.  A number beyond the largest double is refused.
-/

namespace Elementwise.JsonNumber

open Number Text

def maxSignificand : Nat :=
  Nat.pow 2 64 - 1

/-- Takes digits into the significand while it fits, and leaves the others. -/
def collect (significand : Nat) : List Char → Nat × List Char
  | [] => (significand, [])
  | d :: ds =>
    let n := significand * 10 + (d.toNat - 48)
    if n ≤ maxSignificand then collect n ds else (significand, d :: ds)

/-! ### Scaling -/

def powerOfTen (n : Nat) : Float :=
  (Format.double.nearest false (Nat.pow 10 n) 1).toFloat

/-- A double times a power of ten; far below the range of powers, it is lowered in `steps` first. -/
def scale? (x : Float) (exponent : Int) : (steps : Nat) → Option Float
  | 0 => some x
  | steps + 1 =>
    if exponent.natAbs ≤ 308 then
      if 0 ≤ exponent then
        let y := x * powerOfTen exponent.natAbs
        if (Binary.ofFloat y).isFinite then some y else none
      else some (x / powerOfTen exponent.natAbs)
    else if x == 0 then some x
    else if 0 ≤ exponent then none
    else scale? (x / powerOfTen 308) (exponent + 308) steps

def real? (negative : Bool) (significand : Nat) (exponent : Int) : Option JsonNumber :=
  (scale? (floatOfInt significand) exponent 4).map fun x => real (if negative then -x else x)

/-! ### The grammar -/

/-- Reads what follows `e`, and closes the number. -/
def exponent? (negative : Bool) (significand : Nat) (start : Int) (cs : List Char) :
    Option (JsonNumber × List Char) :=
  let (down, cs) := match cs with
    | '+' :: cs => (false, cs)
    | '-' :: cs => (true, cs)
    | cs => (false, cs)
  let ds := cs.takeWhile isAsciiDigit
  let rest := cs.dropWhile isAsciiDigit
  let e : Int := ofDigits ds
  if ds.isEmpty then none
  else if e < Nat.pow 2 31 then
    let bound : Int := Nat.pow 2 31
    let e := max (-bound) (min (bound - 1) (if down then start - e else start + e))
    (real? negative significand e).map (·, rest)
  else if significand != 0 && !down then none
  else some (real (if negative then -0.0 else 0.0), rest)

/-- Reads what follows the digits before a point, and closes a number that is not an integer. -/
def fraction? (negative : Bool) (significand : Nat) (exponent : Int) (cs : List Char) :
    Option (JsonNumber × List Char) :=
  let ds := cs.takeWhile isAsciiDigit
  let rest := cs.dropWhile isAsciiDigit
  if ds.isEmpty then none
  else
    let (significand, left) := collect significand ds
    let exponent := exponent - (ds.length - left.length : Nat)
    match rest with
    | 'e' :: rest | 'E' :: rest => exponent? negative significand exponent rest
    | rest => (real? negative significand exponent).map (·, rest)

/-- An integer without fraction and exponent; zero with a sign, and what no word holds, are
doubles. -/
def ofSignificand (negative : Bool) (significand : Nat) : JsonNumber :=
  if negative then
    if significand = 0 ∨ Nat.pow 2 63 < significand then real (-floatOfInt significand)
    else integer (-significand)
  else integer significand

/-- Reads an unsigned number. -/
def unsigned? (negative : Bool) (cs : List Char) : Option (JsonNumber × List Char) :=
  let ds := cs.takeWhile isAsciiDigit
  let rest := cs.dropWhile isAsciiDigit
  if ds.isEmpty || (ds.head? == some '0' && 1 < ds.length) then none
  else
    let (significand, left) := collect 0 ds
    let exponent : Int := left.length
    match rest with
    | '.' :: rest => fraction? negative significand exponent rest
    | 'e' :: rest | 'E' :: rest => exponent? negative significand exponent rest
    | rest =>
      if left.isEmpty then some (ofSignificand negative significand, rest)
      else (real? negative significand exponent).map (·, rest)

/-- Reads a number with an optional minus sign. -/
def read? : List Char → Option (JsonNumber × List Char)
  | '-' :: cs => unsigned? true cs
  | cs => unsigned? false cs

end Elementwise.JsonNumber
