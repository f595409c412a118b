import Elementwise.Eval.Library
import Elementwise.Eval.Query

/-!
Evaluation of typed expressions.  The environment holds the parameters, innermost first: the items
of the enclosing queries, and the input last.
-/

namespace Elementwise.Eval

open Number (NumericKind)

/-! ### Conversions -/

def coerce (c : Coercion) (v : Value) : Outcome :=
  match c with
  | .numeric k => cast v k
  | .liftedNumeric k => if v.isNull then .ok .null else cast v k
  | .wrap | .box | .nullLiteral | .upcast => .ok v

/-- Converts a value that is not `null`; `null` stays in a lifted conversion and faults in
others. -/
def nonNull (lifted : Bool) (v : Value) (f : Value → Outcome) : Outcome :=
  match v with
  | .null => if lifted then .ok .null else .error .nullValue
  | v => f v

def dayOfNumber (v : Value) : Outcome := do
  match ← cast v (.word .int32) with
  | .number (.word .int32 w) => .ok (.dayOfWeek w)
  | v => .error (.unexpected v "enum conversion")

def numberOfDay (v : Value) : Outcome :=
  match v with
  | .dayOfWeek w => .ok (.int32 w)
  | v => .error (.unexpected v "enum conversion")

/-- Takes an object for a value of the type. -/
def unbox (t : Ty) (v : Value) : Outcome :=
  if v.conformsTo t then .ok v
  else if v.isNull then .error .nullValue
  else .error (.castOf v t.name)

def convertBy (c : Conversion) (v : Value) : Outcome :=
  match c with
  | .numeric target lifted => nonNull lifted v (cast · target)
  | .toDayOfWeek lifted => nonNull lifted v dayOfNumber
  | .ofDayOfWeek lifted => nonNull lifted v numberOfDay
  | .unwrap => nonNull false v .ok
  | .unbox t => unbox t v

/-! ### Operators -/

def unaryOn (op : UnaryOperator) (lifted : Bool) (v : Value) : Outcome :=
  if lifted && v.isNull then .ok .null else unary op v

/-- Whether an order is one that an operation asks for. -/
def admits (op : Operation) (o : Ordering) : Bool :=
  match op with
  | .lessThan => o.isLT
  | .greaterThan => o.isGT
  | .lessEqual => o.isLE
  | _ => o.isGE

/-- An operation that needs both its operands. -/
def binaryOn (op : Operation) (lifted : Bool) (left right : Value) : Outcome :=
  let missing := lifted && (left.isNull || right.isNull)
  match op with
  | .concat => .ok (.string (left.text ++ right.text))
  | .equal => .ok (.boolean (left.same right))
  | .notEqual => .ok (.boolean (!left.same right))
  | .lessThan | .greaterThan | .lessEqual | .greaterEqual =>
    .ok (.boolean (!missing && (left.compare? right).any (admits op)))
  | op => if missing then .ok .null else arithmetic op left right

/-! ### Parts of values -/

def fieldOf (v : Value) (index : Nat) (conditional : Bool) : Outcome :=
  match v with
  | .record _ values =>
    match values[index]? with
    | some v => .ok v
    | none => .error (.internal ("no field " ++ showNat index))
  | .null =>
    if conditional then .ok .null else .error (.nullReference ("field " ++ showNat index))
  | v => .error (.unexpected v "field access")

/-- The item, or the character, at a position. -/
def elementAt (target position : Value) : Outcome :=
  match position with
  | .number (.word .int32 w) =>
    let at? {α : Type} (items : List α) : Except Fault α :=
      match if w.val < 0 then none else items[w.val.toNat]? with
      | some x => .ok x
      | none => .error (.indexOutOfRange w.val items.length)
    match target with
    | .array items => at? items
    | .string s => (at? s.toList).map .char
    | v => .error (.unexpected v "indexer")
  | v => .error (.unexpected v "index")

/-- The items of the source of a query. -/
def itemsOf (q : Query) (source : Value) : Except Fault (List Value) :=
  match source with
  | .array items => .ok items
  | .null => .error (.nullReference q.name)
  | v => .error (.unexpected v q.name)

/-! ### Expressions -/

mutual

/-- The value of an expression where the parameters have the values given. -/
def evaluate : Term → List Value → Outcome
  | .constant v _, _ => .ok v
  | .parameter depth _, env =>
    match env[depth]? with
    | some v => .ok v
    | none => .error (.internal ("no parameter at depth " ++ showNat depth))
  | .coerce c operand _, env => do coerce c (← evaluate operand env)
  | .convert c operand _, env => do convertBy c (← evaluate operand env)
  | .unary op operand lifted _, env => do unaryOn op lifted (← evaluate operand env)
  | .binary op left right lifted _, env => do
    match op, ← evaluate left env with
    | .and, .boolean false => .ok (.boolean false)
    | .and, _ => evaluate right env
    | .or, .boolean true => .ok (.boolean true)
    | .or, _ => evaluate right env
    | op, v => binaryOn op lifted v (← evaluate right env)
  | .coalesce left right _, env => do
    match ← evaluate left env with
    | .null => evaluate right env
    | v => .ok v
  | .choice condition whenTrue whenFalse _, env => do
    match ← evaluate condition env with
    | .boolean true => evaluate whenTrue env
    | .boolean false => evaluate whenFalse env
    | v => .error (.unexpected v "condition")
  | .call b args conditional _, env => do
    match ← evaluateArguments conditional args env with
    | some values => invoke b values none
    | none => .ok .null
  | .field receiver index conditional _, env => do
    fieldOf (← evaluate receiver env) index conditional
  | .index receiver index conditional _, env => do
    match ← evaluate receiver env with
    | .null => if conditional then .ok .null else .error (.nullReference "indexer")
    | target => elementAt target (← evaluate index env)
  | .query q source body args conditional _, env => do
    match conditional, ← evaluate source env with
    | true, .null => .ok .null
    | _, v =>
      let items ← itemsOf q v
      let args ← evaluateAll args env
      match body with
      | some body => query q items (some fun item => evaluate body (item :: env)) args
      | none => query q items none args
  | .array elements _, env => do .ok (.array (← evaluateAll elements env))
  | .record fields values, env => do .ok (.record fields (← evaluateAll values env))

/-- The values of expressions, first to last. -/
def evaluateAll : List Term → List Value → Except Fault (List Value)
  | [], _ => .ok []
  | t :: ts, env => do
    let v ← evaluate t env
    let vs ← evaluateAll ts env
    .ok (v :: vs)

/-- The values of the arguments of a call, or none if the call is conditional and the receiver is
`null`; the other arguments are not evaluated then. -/
def evaluateArguments (conditional : Bool) : List Term → List Value →
    Except Fault (Option (List Value))
  | [], _ => .ok (some [])
  | t :: ts, env => do
    match conditional, ← evaluate t env with
    | true, .null => .ok none
    | _, v =>
      let vs ← evaluateAll ts env
      .ok (some (v :: vs))

end

end Elementwise.Eval
