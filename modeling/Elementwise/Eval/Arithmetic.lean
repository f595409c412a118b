import Elementwise.Eval.Fault
import Elementwise.Operator
import Elementwise.Decimal.Arithmetic

/-!
Arithmetic on two operands of one type.  Sums, differences and products of integers wrap, division
by zero faults, and so does the one quotient of each signed kind that is out of range.  Decimals
fault where a result is too large.  Dates stay in the years 1 to 9999 and spans in the 64-bit range
of ticks.
-/

namespace Elementwise.Eval

open Number
open Time (Span DateTime OffsetDateTime)

def notArithmetic (op : Operation) : Fault :=
  .internal (op.name ++ " is not arithmetic")

/-! ### Numbers -/

/-- The kinds of words that have arithmetic; all others are widened to one of them. -/
def hasArithmetic : WordKind → Bool
  | .int32 | .uint32 | .int64 | .uint64 => true
  | _ => false

def wordArithmetic (op : Operation) (k : WordKind) (a b : Word k) : Outcome :=
  let wrapped (n : Int) : Outcome := .ok (.number (.word k (.wrap k n)))
  -- the quotient of the least number by minus one does not fit, nor does its remainder exist
  let quotient (n : Int) : Outcome :=
    match Word.ofInt? k (a.val.tdiv b.val) with
    | some _ => wrapped n
    | none => .error (.overflow (showInt a.val) k.name)
  match op with
  | .add => wrapped (a.val + b.val)
  | .subtract => wrapped (a.val - b.val)
  | .multiply => wrapped (a.val * b.val)
  | .divide => if b.val = 0 then .error .divisionByZero else quotient (a.val.tdiv b.val)
  | .modulo => if b.val = 0 then .error .divisionByZero else quotient (a.val.tmod b.val)
  | op => .error (notArithmetic op)

def floatArithmetic (op : Operation) (a b : Float) : Outcome :=
  match op with
  | .add => .ok (.double (a + b))
  | .subtract => .ok (.double (a - b))
  | .multiply => .ok (.double (a * b))
  | .divide => .ok (.double (a / b))
  | .modulo => .ok (.double (floatRemainder a b))
  | op => .error (notArithmetic op)

def float32Arithmetic (op : Operation) (a b : Float32) : Outcome :=
  match op with
  | .add => .ok (.single (a + b))
  | .subtract => .ok (.single (a - b))
  | .multiply => .ok (.single (a * b))
  | .divide => .ok (.single (a / b))
  | .modulo => .ok (.single (float32Remainder a b))
  | op => .error (notArithmetic op)

/-- Two operands and the operation between them, as an overflow fault quotes them. -/
def quoteOperation (op : Operation) (left right : Value) : String :=
  left.text ++ " " ++ op.name ++ " " ++ right.text

def decimalArithmetic (op : Operation) (a b : Decimal) : Outcome :=
  let result : Option Decimal → Outcome
    | some d => .ok (.decimal d)
    | none =>
      .error (.overflow (quoteOperation op (.decimal a) (.decimal b)) NumericKind.decimal.name)
  match op with
  | .add => result (a.add? b)
  | .subtract => result (a.sub? b)
  | .multiply => result (a.mul? b)
  | .divide => if b.isZero then .error .divisionByZero else result (a.div? b)
  | .modulo => if b.isZero then .error .divisionByZero else result (a.rem b)
  | op => .error (notArithmetic op)

/-! ### Dates and spans -/

def dateOverflow (t : DateTime) : Fault :=
  .overflow (String.ofList t.quoted) Ty.dateTime.name

/-- A date moved by a span, within the calendar. -/
def shiftDate (t : DateTime) (s : Span) : Except Fault DateTime :=
  match t.add? s with
  | none => .error (dateOverflow t)
  | some t => if t.inCalendar then .ok t else .error (dateOverflow t)

/-- A date with an offset moved by a span; its clock reading stays within the calendar. -/
def shiftOffsetDate (t : OffsetDateTime) (s : Span) : Except Fault OffsetDateTime :=
  (shiftDate t.clock s).map fun clock => { t with clock := clock }

/-- The sum of a date and a span, the span between two dates, or the sum of two spans; subtraction
takes the second span negated. -/
def temporalArithmetic? (op : Operation) (left right : Value) : Option Outcome :=
  let signed (s : Span) : Span := if op = .subtract then s.neg else s
  match left, right with
  | .dateTime t, .timeSpan s => some ((shiftDate t (signed s)).map .dateTime)
  | .dateTimeOffset t, .timeSpan s => some ((shiftOffsetDate t (signed s)).map .dateTimeOffset)
  | .dateTime a, .dateTime b => some (.ok (.timeSpan (a.since b)))
  | .dateTimeOffset a, .dateTimeOffset b => some (.ok (.timeSpan (a.utc.since b.utc)))
  | .timeSpan a, .timeSpan b =>
    match (a.add (signed b)).inRange? with
    | some s => some (.ok (.timeSpan s))
    | none => some (.error (.overflow (quoteOperation op left right) Ty.timeSpan.name))
  | _, _ => none

/-! ### Operators -/

def noArithmetic (op : Operation) (left right : Value) : Fault :=
  .internal (op.name ++ " on " ++ left.kindName ++ " and " ++ right.kindName)

def arithmetic (op : Operation) (left right : Value) : Outcome :=
  match left, right with
  | .number (.word j a), .number (.word k b) =>
    if h : j = k then
      if hasArithmetic k then wordArithmetic op k (h ▸ a) b else .error (noArithmetic op left right)
    else .error (noArithmetic op left right)
  | .number (.single a), .number (.single b) => float32Arithmetic op a b
  | .number (.double a), .number (.double b) => floatArithmetic op a b
  | .number (.decimal a), .number (.decimal b) => decimalArithmetic op a b
  | left, right => (temporalArithmetic? op left right).getD (.error (noArithmetic op left right))

def unary (op : UnaryOperator) (v : Value) : Outcome :=
  match op, v with
  | .not, .boolean b => .ok (.boolean (!b))
  | .plus, v => .ok v
  | .negate, .number (.word .int32 w) => .ok (.int32 (.wrap .int32 (-w.val)))
  | .negate, .number (.word .int64 w) => .ok (.int64 (.wrap .int64 (-w.val)))
  | .negate, .number (.single x) => .ok (.single (-x))
  | .negate, .number (.double x) => .ok (.double (-x))
  | .negate, .number (.decimal d) => .ok (.decimal d.neg)
  | .negate, .timeSpan s =>
    match s.neg.inRange? with
    | some s => .ok (.timeSpan s)
    | none => .error (.overflow v.text Ty.timeSpan.name)
  | _, v => .error (.unexpected v "unary operator")

end Elementwise.Eval
