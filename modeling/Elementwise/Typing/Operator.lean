import Elementwise.Typing.Conversion

/-!
Typing of operators.  Operands of different numeric kinds are promoted to a common kind, an operator
on value types is lifted when one of its operands is nullable, a sum with a string concatenates, and
dates and spans have arithmetic of their own.
-/

namespace Elementwise.Typing

open Number (NumericKind)

/-! ### Promotion -/

/-- The kind in which two numbers meet.  Decimals do not meet binary floating point, and 64-bit
unsigned integers do not meet signed ones. -/
def promote? (left right : NumericKind) : Option NumericKind :=
  let either (k : NumericKind) := left == k || right == k
  let signedWord (k : NumericKind) := k.signed && k.integral
  if either .decimal then
    if either .single || either .double then none else some .decimal
  else if either .double then some .double
  else if either .single then some .single
  else if either (.word .uint64) then
    if signedWord left || signedWord right then none else some (.word .uint64)
  else if either (.word .int64) then some (.word .int64)
  else if either (.word .uint32) then
    if signedWord left || signedWord right then some (.word .int64) else some (.word .uint32)
  else some (.word .int32)

/-- The kind that a sign is applied in: small integers become 32-bit ones, and an unsigned integer
is negated in a kind that holds the result, if there is one. -/
def promoteSigned? (op : UnaryOperator) (k : NumericKind) : Option NumericKind :=
  match k with
  | .char | .word .sbyte | .word .byte | .word .int16 | .word .uint16 => some (.word .int32)
  | .word .uint32 => some (if op = .negate then .word .int64 else .word .uint32)
  | .word .uint64 => if op = .negate then none else some (.word .uint64)
  | k => some k

/-- The type in which two operands are compared if both are numbers. -/
def promoteTypes? (left right : Ty) : Option (Option Ty) :=
  match left.numericKind?, right.numericKind? with
  | some j, some k => some ((promote? j k).map .numeric)
  | _, _ => none

def liftTo (t : Ty) (lifted : Bool) : Ty :=
  if lifted then t.asNullable else t

/-- Both operands converted to one type, or the types they have where that is impossible. -/
def coerceBoth (left right : Term) (target : Ty) : Except (Ty × Ty) (Term × Term) :=
  match left.coerceTo? target, right.coerceTo? target with
  | some left, some right => .ok (left, right)
  | left', right' => .error ((left'.getD left).ty, (right'.getD right).ty)

/-! ### Prefix operators -/

/-- The type that the operand of a prefix operator is converted to, before lifting. -/
def unaryOperand? (op : UnaryOperator) (t : Ty) : Option Ty :=
  match op, t with
  | .not, .boolean => some .boolean
  | .negate, .timeSpan => some .timeSpan
  | .negate, .numeric k | .plus, .numeric k => (promoteSigned? op k).map .numeric
  | _, _ => none

def unary (op : UnaryOperator) (operand : Term) (offset : Nat) : Typed Term :=
  let lifted := operand.ty.isNullable
  let converted := do
    let target ← unaryOperand? op operand.ty.underlying
    let operand ← operand.coerceTo? (liftTo target lifted)
    some (operand.unary op lifted (liftTo target lifted))
  match converted with
  | some t => .ok t
  | none => .error (.invalidOperand op.symbol operand.ty offset)

/-! ### Binary operators -/

/-- The operation that an operator on typed operands is; `??` is none. -/
def operation : BinaryOperator → Operation
  | .equal => .equal
  | .notEqual => .notEqual
  | .lessThan => .lessThan
  | .greaterThan => .greaterThan
  | .lessEqual => .lessEqual
  | .greaterEqual => .greaterEqual
  | .add => .add
  | .subtract => .subtract
  | .multiply => .multiply
  | .divide => .divide
  | .modulo => .modulo
  | .and => .and
  | .or | .coalesce => .or

def incompatible (op : BinaryOperator) (left right : Ty) (offset : Nat) : TypeError :=
  .incompatibleOperands op.symbol left right offset

/-- Days of the week take part in arithmetic as their numbers. -/
def numberOfDay (operand : Term) : Term :=
  if operand.ty.underlying = .dayOfWeek then
    let lifted := operand.ty.isNullable
    operand.convert (.ofDayOfWeek lifted) (liftTo .int32 lifted)
  else operand

/-- The types of the operands and the result of arithmetic on dates and spans. -/
def temporal? (op : BinaryOperator) (left right : Ty) : Option (Ty × Ty × Ty) :=
  let shifting := op = .add || op = .subtract
  match left, right with
  | .dateTime, .timeSpan => if shifting then some (.dateTime, .timeSpan, .dateTime) else none
  | .dateTimeOffset, .timeSpan =>
    if shifting then some (.dateTimeOffset, .timeSpan, .dateTimeOffset) else none
  | .timeSpan, .timeSpan => if shifting then some (.timeSpan, .timeSpan, .timeSpan) else none
  | .dateTime, .dateTime =>
    if op = .subtract then some (.dateTime, .dateTime, .timeSpan) else none
  | .dateTimeOffset, .dateTimeOffset =>
    if op = .subtract then some (.dateTimeOffset, .dateTimeOffset, .timeSpan) else none
  | _, _ => none

/-- Arithmetic on numbers. -/
def arithmetic (op : BinaryOperator) (left right : Term) (lifted : Bool) (offset : Nat) :
    Typed Term :=
  let left := numberOfDay left
  let right := numberOfDay right
  match (promoteTypes? left.ty.underlying right.ty.underlying).join with
  | none => .error (incompatible op left.ty right.ty offset)
  | some target =>
    match coerceBoth left right (liftTo target lifted) with
    | .ok (left, right) => .ok (left.binary (operation op) right lifted (liftTo target lifted))
    | .error (l, r) => .error (incompatible op l r offset)

/-- A comparison whose operands are converted to one type. -/
def comparison (op : BinaryOperator) (left right : Term) (target? : Option Ty) (lifted : Bool)
    (offset : Nat) : Typed Term :=
  match target? with
  | none => .error (incompatible op left.ty right.ty offset)
  | some target =>
    match coerceBoth left right (liftTo target lifted) with
    | .ok (left, right) => .ok (left.binary (operation op) right lifted .boolean)
    | .error (l, r) => .error (incompatible op l r offset)

/-- The types besides numbers that `<` and its like compare. -/
def hasRelations : Ty → Bool
  | .string | .dateTime | .dateTimeOffset | .timeSpan | .dayOfWeek => true
  | _ => false

def relational (op : BinaryOperator) (left right : Term) (lifted : Bool) (offset : Nat) :
    Typed Term :=
  let l := left.ty.underlying
  let r := right.ty.underlying
  let target := (promoteTypes? l r).getD (if l = r && hasRelations l then some l else none)
  comparison op left right target lifted offset

/-- Equality with the literal `null`, which the other operand has to admit. -/
def nullTest (op : BinaryOperator) (null other : Term) (offset : Nat) : Typed Term :=
  match null.coerceTo? other.ty with
  | some null => .ok (other.binary (operation op) null false .boolean)
  | none => .error (incompatible op other.ty null.ty offset)

def equality (op : BinaryOperator) (left right : Term) (offset : Nat) : Typed Term :=
  if left.isNullLiteral then nullTest op left right offset
  else if right.isNullLiteral then nullTest op right left offset
  else
    let l := left.ty.underlying
    let r := right.ty.underlying
    let target := (promoteTypes? l r).getD <|
      if l = r then some l else if l = .object || r = .object then some .object else none
    let lifted := (left.ty.isNullable || right.ty.isNullable) && target.any (·.isValueType)
    comparison op left right target lifted offset

/-- Arithmetic on dates, spans and numbers. -/
def additive (op : BinaryOperator) (left right : Term) (lifted : Bool) (offset : Nat) :
    Typed Term :=
  match temporal? op left.ty.underlying right.ty.underlying with
  | some (l, r, result) =>
    match left.coerceTo? (liftTo l lifted), right.coerceTo? (liftTo r lifted) with
    | some left, some right =>
      .ok (left.binary (operation op) right lifted (liftTo result lifted))
    | left', _ => .error (incompatible op (left'.getD left).ty right.ty offset)
  | none => arithmetic op left right lifted offset

/-- An operator other than `??`. -/
def binary (op : BinaryOperator) (left right : Term) (offset : Nat) : Typed Term :=
  let lifted := left.ty.isNullable || right.ty.isNullable
  match op with
  | .and | .or =>
    if left.ty = .boolean && right.ty = .boolean then
      .ok (left.binary (operation op) right false .boolean)
    else .error (incompatible op left.ty right.ty offset)
  | .equal | .notEqual => equality op left right offset
  | .lessThan | .greaterThan | .lessEqual | .greaterEqual => relational op left right lifted offset
  | .add =>
    if left.ty = .string || right.ty = .string then .ok (left.binary .concat right false .string)
    else additive op left right lifted offset
  | _ => additive op left right lifted offset

/-- `left ?? right`: the type is that of the left operand without `null` if the right one converts
to it, else with `null`; failing that, the left operand takes the type of the right one. -/
def coalesce (left right : Term) (offset : Nat) : Typed Term :=
  if left.isNullLiteral then .ok (left.coalesce right right.ty)
  else if !left.ty.acceptsNull then .error (.notNullable left.ty offset)
  else
    match right.coerceTo? left.ty.underlying, right.coerceTo? left.ty with
    | some right, _ => .ok (left.coalesce right left.ty.underlying)
    | none, some right => .ok (left.coalesce right left.ty)
    | none, none =>
      match left.coerceTo? right.ty with
      | some converted =>
        if right.ty.acceptsNull then .ok (converted.coalesce right right.ty)
        else .error (.typeMismatch right.ty.underlying right.ty offset)
      | none => .error (.typeMismatch left.ty.underlying right.ty offset)

/-! ### Conditionals -/

/-- Gives the branches of a conditional one type: that of one of them, or the nullable type of one
if the other is `null`. -/
def unify (whenTrue whenFalse : Term) (offset : Nat) : Typed (Term × Term) :=
  let mismatch := TypeError.typeMismatch whenTrue.ty whenFalse.ty offset
  match whenFalse.coerceTo? whenTrue.ty, whenTrue.coerceTo? whenFalse.ty with
  | some whenFalse, _ => .ok (whenTrue, whenFalse)
  | none, some whenTrue => .ok (whenTrue, whenFalse)
  | none, none =>
    let target? :=
      if whenTrue.isNullLiteral && whenFalse.ty.isValueType then some whenFalse.ty.asNullable
      else if whenFalse.isNullLiteral && whenTrue.ty.isValueType then some whenTrue.ty.asNullable
      else none
    match target? with
    | none => .error mismatch
    | some target =>
      match coerceBoth whenTrue whenFalse target with
      | .ok branches => .ok branches
      | .error (t, f) => .error (.typeMismatch t f offset)

end Elementwise.Typing
