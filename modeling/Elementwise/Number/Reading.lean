import Elementwise.Number.Binary
import Elementwise.Text.Numeral

/-!
Reading floating point numbers.  A numeral is digits with at most one point among them and an
optional exponent; it denotes the number of the format nearest to it, however many digits it has.
-/

namespace Elementwise.Number

/-- A decimal numeral, with `scale` of its digits after the point. -/
structure Numeral where
  digits : List Char
  scale : Nat
  exponent : Int

namespace Numeral

/-- An exponent: digits with an optional sign. -/
def exponent? (cs : List Char) : Option Int :=
  Text.integer? cs

/-- Digits with at most one point, and an exponent after `e` or `E`; at least one digit is
required. -/
def parse? (cs : List Char) : Option Numeral :=
  let whole := cs.takeWhile Text.isAsciiDigit
  let (fraction, rest) :=
    match cs.dropWhile Text.isAsciiDigit with
    | '.' :: rest => (rest.takeWhile Text.isAsciiDigit, rest.dropWhile Text.isAsciiDigit)
    | rest => ([], rest)
  if whole.isEmpty && fraction.isEmpty then none
  else
    match rest with
    | [] => some ⟨whole ++ fraction, fraction.length, 0⟩
    | c :: exponent =>
      if c = 'e' || c = 'E' then
        (exponent? exponent).map fun e => ⟨whole ++ fraction, fraction.length, e⟩
      else none

/-- The nearest number of the format.  Exponents so large or small that the result is infinite or
zero whatever the digits are not computed with. -/
def nearest (n : Numeral) (f : Format) (negative : Bool) : Binary :=
  let digits := n.digits.dropWhile (· == '0')
  let m := Text.ofDigits digits
  let e := n.exponent - n.scale
  if m = 0 then f.nearest negative 0 1
  else if 400 < e + digits.length then .infinite negative
  else if e + digits.length < -400 then f.nearest negative 0 1
  else match e with
    | .ofNat e => f.nearest negative (m * Nat.pow 10 e) 1
    | .negSucc e => f.nearest negative m (Nat.pow 10 (e + 1))

end Numeral

namespace Format

/-- A number with an optional sign: a numeral, or one of the words `inf`, `infinity` and `nan` in
any letter case. -/
def parse? (f : Format) (cs : List Char) : Option Binary :=
  let (negative, body) := match cs with
    | '-' :: body => (true, body)
    | '+' :: body => (false, body)
    | body => (false, body)
  let word := body.map Char.toLower
  if word == "inf".toList || word == "infinity".toList then some (.infinite negative)
  else if word == "nan".toList then some .nan
  else (Numeral.parse? body).map fun n => n.nearest f negative

end Format

def float? (cs : List Char) : Option Float :=
  (Format.double.parse? cs).map Binary.toFloat

def float32? (cs : List Char) : Option Float32 :=
  (Format.single.parse? cs).map Binary.toFloat32

end Elementwise.Number
