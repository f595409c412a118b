import Elementwise.Eval.Fault
import Elementwise.Decimal.Reading
import Elementwise.Decimal.Binary
import Elementwise.Number.Reading
import Elementwise.Text.Search

/-!
Conversions between numeric kinds.  A cast wraps integers and truncates floating point numbers; a
checked conversion rounds half to even and faults outside the range of its target.  Decimals are
always checked.
-/

namespace Elementwise.Eval

open Number

/-! ### Integers -/

def overflow (shown : Int) (target : NumericKind) : Fault :=
  .overflow (showInt shown) target.name

/-- The character with a code, if the code is no surrogate. -/
def charOf? (code : Nat) : Option Char :=
  if code.isValidChar then some (Char.ofNat code) else none

/-- An integer in a kind with fractions, rounded to it. -/
def decimalOfInt (n : Int) : Except Fault Number :=
  match Decimal.ofInt? n with
  | some d => .ok (.decimal d)
  | none => .error (overflow n .decimal)

/-- An integer brought into a kind: words take it modulo their size. -/
def wrapInt (n : Int) : NumericKind → Except Fault Number
  | .char =>
    match charOf? (Word.wrap .uint16 n).val.toNat with
    | some c => .ok (.char c)
    | none => .error (overflow n .char)
  | .word k => .ok (.word k (.wrap k n))
  | .single => .ok (.single (float32OfInt n))
  | .double => .ok (.double (floatOfInt n))
  | .decimal => decimalOfInt n

/-- An integer in a kind that has to hold it. -/
def checkInt (n : Int) : NumericKind → Except Fault Number
  | .char =>
    match (Word.ofInt? .uint16 n).bind (charOf? ·.val.toNat) with
    | some c => .ok (.char c)
    | none => .error (overflow n .char)
  | .word k =>
    match Word.ofInt? k n with
    | some w => .ok (.word k w)
    | none => .error (overflow n (.word k))
  | target => wrapInt n target

/-! ### Floating point -/

/-- The integers from which floating point numbers are converted further. -/
def wideBound : Int :=
  Nat.pow 2 127

/-- The truncated number, brought into the wide range; zero for what is no number. -/
def truncated (x : Float) : Int :=
  match Binary.ofFloat x with
  | .nan => 0
  | .infinite negative => if negative then -wideBound else wideBound - 1
  | b => max (-wideBound) (min (wideBound - 1) ((b.round? .toZero).getD 0))

/-- The magnitude from which on a floating point number is out of range of every integral kind. -/
def checkedBound : Nat :=
  99999999999999997748809823456034029568

/-- The number rounded half to even, if it is finite and not beyond all integral kinds. -/
def rounded? (x : Float) : Option Int :=
  ((Binary.ofFloat x).round? .toEven).filter (·.natAbs < checkedBound)

/-- A floating point number in a kind; a single precision one comes in as the equal double. -/
def ofFloat (x : Float) (source target : NumericKind) (checked : Bool) : Except Fault Number :=
  match target with
  | .single => .ok (.single (narrow x))
  | .double => .ok (.double x)
  | .decimal =>
    let d? :=
      if source = .single then Decimal.ofBinary? .single (.ofFloat32 (narrow x))
      else Decimal.ofBinary? .double (.ofFloat x)
    match d? with
    | some d => .ok (.decimal d)
    | none => .error (.overflow (floatPositional x) target.name)
  | .char =>
    if checked then .error (.invalidCast source.name target.name) else wrapInt (truncated x) .char
  | .word k =>
    if checked then
      match rounded? x with
      | some n => checkInt n (.word k)
      | none => .error (.overflow (floatPositional x) target.name)
    else wrapInt (truncated x) (.word k)

/-! ### Decimals -/

def ofDecimal (d : Decimal) (target : NumericKind) (checked : Bool) : Except Fault Number :=
  match target with
  | .decimal => .ok (.decimal d)
  | .single => .ok (.single (narrow d.toFloat))
  | .double => .ok (.double d.toFloat)
  | .char =>
    if checked then .error (.invalidCast NumericKind.decimal.name target.name)
    else checkInt d.toInt .char
  | .word k => checkInt (if checked then (d.roundTo 0).toInt else d.toInt) (.word k)

/-! ### Casts -/

def castNumber (n : Number) (target : NumericKind) : Except Fault Number :=
  match n with
  | .char c => wrapInt c.toNat target
  | .word _ w => wrapInt w.val target
  | .single x => ofFloat (widen x) .single target false
  | .double x => ofFloat x .double target false
  | .decimal d => ofDecimal d target false

/-- The unchecked conversion of a number to a kind. -/
def cast (v : Value) (target : NumericKind) : Outcome :=
  match v with
  | .number n => (castNumber n target).map .number
  | v => .error (.castOf v target.name)

/-! ### Reading -/

/-- The integers that numerals are read as before they are checked against a kind. -/
def wide? (cs : List Char) : Option Int :=
  (Text.integer? cs).filter fun n => -wideBound ≤ n ∧ n < wideBound

/-- A number written in text, with space around it. -/
def parse (text : String) (target : NumericKind) : Outcome :=
  let cs := Text.trim text.toList
  let found : Option Number → Outcome
    | some n => .ok (.number n)
    | none => .error (.invalidFormat text target.name)
  match target with
  | .char =>
    match cs with
    | [c] => .ok (.char c)
    | _ => found none
  | .single => found ((float32? cs).map .single)
  | .double => found ((float? cs).map .double)
  | .decimal => found ((Decimal.parse? cs).map .decimal)
  | .word k =>
    match wide? cs with
    | some n => (checkInt n (.word k)).map .number
    | none => found none

/-! ### Checked conversions -/

def convertNumber (n : Number) (target : NumericKind) : Except Fault Number :=
  match n with
  | .char c =>
    if target.integral then checkInt c.toNat target
    else .error (.invalidCast NumericKind.char.name target.name)
  | .word _ w => checkInt w.val target
  | .single x => ofFloat (widen x) .single target true
  | .double x => ofFloat x .double target true
  | .decimal d => ofDecimal d target true

/-- The checked conversion of a value to a kind: `null` is zero, truth values are zero and one, and
text is read. -/
def convert (v : Value) (target : NumericKind) : Outcome :=
  match v with
  | .null => .ok (.number (.zero target))
  | .boolean b =>
    if target = .char then .error (.castOf v target.name)
    else (wrapInt b.toInt target).map .number
  | .string text => parse text target
  | .number n => (convertNumber n target).map .number
  | v => .error (.castOf v target.name)

/-- Whether a number is other than zero. -/
def isNonzero : Number → Bool
  | .char c => c.toNat != 0
  | .word _ w => w.val != 0
  | .single x => x != 0
  | .double x => x != 0
  | .decimal d => !d.isZero

/-- The truth value of a value: numbers other than zero are true, and text is read. -/
def toBoolean (v : Value) : Outcome :=
  match v with
  | .null => .ok (.boolean false)
  | .boolean b => .ok (.boolean b)
  | .string text =>
    let word := String.ofList (Text.trim text.toList)
    if Text.sameIgnoringAsciiCase word "true" then .ok (.boolean true)
    else if Text.sameIgnoringAsciiCase word "false" then .ok (.boolean false)
    else .error (.invalidFormat text Ty.boolean.name)
  | .number (.char _) => .error (.castOf v Ty.boolean.name)
  | .number n => .ok (.boolean (isNonzero n))
  | v => .error (.castOf v Ty.boolean.name)

end Elementwise.Eval
