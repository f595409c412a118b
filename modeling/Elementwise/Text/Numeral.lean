import Elementwise.Text.Char

/-!
Numerals: the digits of natural numbers, and integers in the notation with an optional sign.
Reading undoes writing.
-/

namespace Elementwise.Text

/-! ### Writing -/

/-- The decimal digits of a number, most significant first, without leading zeros. -/
def digits (n : Nat) : List Char :=
  Nat.toDigits 10 n

/-- At least `width` digits, filled up with leading zeros. -/
def padded (width n : Nat) : List Char :=
  List.replicate (width - (digits n).length) '0' ++ digits n

/-- An integer with a sign only when it is negative. -/
def integer (n : Int) : List Char :=
  if n < 0 then '-' :: digits n.natAbs else digits n.natAbs

/-! ### Reading -/

/-- The number that a string of decimal digits denotes. -/
def ofDigits (ds : List Char) : Nat :=
  Nat.ofDigitChars 10 ds 0

theorem ofDigits_digits (n : Nat) : ofDigits (digits n) = n := by
  simp [ofDigits, digits]

def hexDigitValue (c : Char) : Nat :=
  if isAsciiDigit c then c.toNat - 48
  else if 'a' ≤ c && c ≤ 'f' then c.toNat - 87
  else if 'A' ≤ c && c ≤ 'F' then c.toNat - 55
  else 0

/-- The number that a string of hexadecimal digits of either case denotes. -/
def ofHexDigits (ds : List Char) : Nat :=
  ds.foldl (fun n c => n * 16 + hexDigitValue c) 0

/-- A non-empty string of decimal digits. -/
def natural? (cs : List Char) : Option Nat :=
  if cs.isEmpty || !cs.all isAsciiDigit then none else some (ofDigits cs)

/-- A natural number with an optional sign of either kind. -/
def integer? : List Char → Option Int
  | '-' :: ds => (natural? ds).map fun n => -(n : Int)
  | '+' :: ds => (natural? ds).map Int.ofNat
  | ds => (natural? ds).map Int.ofNat

end Elementwise.Text
