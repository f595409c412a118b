import Elementwise.Number.Kind
import Elementwise.Number.Shortest
import Elementwise.Text.Search

/-!
How floating point numbers are written.  There are three forms: the language's own text, which
changes to an exponent beyond the digits a format guarantees; a positional form without any
exponent, used where a message quotes a number; and the form of a JSON number.  The first is laid
out anew from a rendering with an exponent.
-/

namespace Elementwise.Number

namespace Scientific

/-! ### Layouts of digits -/

/-- All digits before or after the point, as the exponent says. -/
def positional (s : Scientific) : List Char :=
  let point := s.exponent + 1
  if point ≤ 0 then '0' :: '.' :: List.replicate (-point).toNat '0' ++ s.digits
  else
    let p := point.toNat
    if s.digits.length ≤ p then s.digits ++ List.replicate (p - s.digits.length) '0'
    else s.digits.take p ++ '.' :: s.digits.drop p

/-- One digit, the others after a point, and the exponent written by `writeExponent`. -/
def exponential (s : Scientific) (writeExponent : Int → List Char) : List Char :=
  let fraction := s.digits.drop 1
  s.digits.take 1 ++ (if fraction.isEmpty then [] else '.' :: fraction) ++ writeExponent s.exponent

/-- The rendering that the text form is laid out from: the exponent stands after an `e`, with a sign
only when it is negative. -/
def rendering (s : Scientific) : List Char :=
  s.exponential fun e => 'e' :: Text.integer e

def sign (n : Int) : Char :=
  if n < 0 then '-' else '+'

/-- The text form: positional for exponents from -4 up to the number of guaranteed digits,
otherwise with a sign and two digits of exponent at least. -/
def text (s : Scientific) (guaranteed : Nat) : List Char :=
  let point := s.exponent + 1
  if (guaranteed : Int) < point || point < -3 then
    s.exponential fun e => 'E' :: sign e :: Text.padded 2 e.natAbs
  else s.positional

/-- The form of a JSON number: positional for exponents from -5 to 15, where an integer gets a
fraction of zero, otherwise with an exponent and its sign. -/
def json (s : Scientific) : List Char :=
  if 15 < s.exponent || s.exponent < -5 then
    s.exponential fun e => 'e' :: sign e :: Text.digits e.natAbs
  else
    let ds := s.positional
    if ds.contains '.' then ds else ds ++ ['.', '0']

end Scientific

/-! ### Numbers -/

namespace Format

/-- The decimal digits that every number of so many digits keeps when it goes through the format. -/
def guaranteedDigits (f : Format) : Nat :=
  if f.precision ≤ 24 then 7 else 15

def signed (negative : Bool) (cs : List Char) : List Char :=
  if negative then '-' :: cs else cs

/-- The text form of the number that a rendering tells.  An exponent that cannot be read is taken as
zero, and without digits other than zeros only the sign counts. -/
def layout (rendering : List Char) (guaranteed : Nat) : List Char :=
  let (mantissa, exponent) := (Text.splitOnce? 'e' rendering).getD (rendering, ['0'])
  let exponent := ((Text.integer? exponent).bind (Word.ofInt? .int32)).elim 0 Word.val
  let digits := stripZeros (mantissa.filter Text.isAsciiDigit)
  signed (mantissa.head? == some '-')
    (if digits.isEmpty then ['0'] else Scientific.text ⟨digits, exponent⟩ guaranteed)

/-- The language's text form of a number. -/
def text (f : Format) : Binary → List Char
  | .nan => "NaN".toList
  | .infinite s => signed s "Infinity".toList
  | .finite s m e =>
    let rendering := if m = 0 then "0e0".toList else (shortest f .up m e).rendering
    layout (signed s rendering) f.guaranteedDigits

/-- The positional form of a number, which messages quote. -/
def positional (f : Format) : Binary → List Char
  | .nan => "NaN".toList
  | .infinite s => signed s "inf".toList
  | .finite s m e => signed s (if m = 0 then ['0'] else (shortest f .up m e).positional)

end Format

def floatText (x : Float) : String :=
  String.ofList (Format.double.text (.ofFloat x))

def float32Text (x : Float32) : String :=
  String.ofList (Format.single.text (.ofFloat32 x))

def floatPositional (x : Float) : String :=
  String.ofList (Format.double.positional (.ofFloat x))

/-- The JSON form of a finite number. -/
def floatJson? (x : Float) : Option (List Char) :=
  match Binary.ofFloat x with
  | .finite s m e =>
    some (Format.signed s
      (if m = 0 then "0.0".toList else (shortest .double .even m e).json))
  | _ => none

end Elementwise.Number
