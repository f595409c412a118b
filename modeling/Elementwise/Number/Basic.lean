import Elementwise.Number.Kind
import Elementwise.Number.Layout
import Elementwise.Decimal.Basic

/-!
Numbers of all kinds.  Equality and order are numeric within a kind: two decimals of different
scale may be equal, and a floating point number that is no number is neither equal to nor ordered
against anything.
-/

namespace Elementwise

/-- A number together with its kind; a character counts as its code. -/
inductive Number where
  | char (c : Char)
  | word (k : Number.WordKind) (w : Number.Word k)
  | single (x : Float32)
  | double (x : Float)
  | decimal (d : Decimal)

namespace Number

def kind : Number → NumericKind
  | char _ => .char
  | word k _ => .word k
  | single _ => .single
  | double _ => .double
  | decimal _ => .decimal

def int32 (w : Word .int32) : Number :=
  word .int32 w

def int64 (w : Word .int64) : Number :=
  word .int64 w

/-- The number with a small value as a 32-bit integer. -/
def ofNat32 (n : Nat) : Number :=
  int32 (.wrap .int32 n)

/-- The zero of a kind. -/
def zero : NumericKind → Number
  | .char => char (Char.ofNat 0)
  | .word k => word k (.zero k)
  | .single => single 0
  | .double => double 0
  | .decimal => decimal .zero

/-- The exact value of a word or a character. -/
def integer? : Number → Option Int
  | char c => some c.toNat
  | word _ w => some w.val
  | _ => none

def isNaN : Number → Bool
  | single x => x.isNaN
  | double x => x.isNaN
  | _ => false

/-! ### Equality and order -/

def same : Number → Number → Bool
  | char a, char b => a == b
  | word j a, word k b => j == k && a.val == b.val
  | single a, single b => a == b
  | double a, double b => a == b
  | decimal a, decimal b => a.sameNumber b
  | _, _ => false

def floatCompare? (lt eq gt : Bool) : Option Ordering :=
  if lt then some .lt else if eq then some .eq else if gt then some .gt else none

/-- The order of two numbers of one kind. -/
def compare? : Number → Number → Option Ordering
  | char a, char b => some (compare a.toNat b.toNat)
  | word j a, word k b => if j = k then some (compare a.val b.val) else none
  | single a, single b => floatCompare? (a < b) (a == b) (b < a)
  | double a, double b => floatCompare? (a < b) (a == b) (b < a)
  | decimal a, decimal b => some (a.compare b)
  | _, _ => none

/-! ### Text -/

def text : Number → String
  | char c => c.toString
  | word _ w => String.ofList (Text.integer w.val)
  | single x => float32Text x
  | double x => floatText x
  | decimal d => String.ofList d.text

end Number

end Elementwise
