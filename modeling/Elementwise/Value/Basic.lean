import Elementwise.Ty
import Elementwise.Number.Basic
import Elementwise.Time.DateTime
import Elementwise.Guid

/-!
The values that flow through an expression.  A value of a nullable type is `null` or a plain value,
and a record carries its field types.  `conformsTo` says where a value may flow: it looks into
arrays, and compares a record with the expected type by its field types.
-/

namespace Elementwise

open Number (NumericKind Word)

inductive Value where
  | null
  | boolean (b : Bool)
  | number (n : Number)
  | string (s : String)
  | dateTime (t : Time.DateTime)
  | dateTimeOffset (t : Time.OffsetDateTime)
  | timeSpan (s : Time.Span)
  | guid (g : Guid)
  | dayOfWeek (n : Word .int32)
  | array (items : List Value)
  | record (fields : List (String × Ty)) (values : List Value)

namespace Value

/-! ### Constructors of common values -/

def char (c : Char) : Value :=
  number (.char c)

def int32 (n : Word .int32) : Value :=
  number (.int32 n)

def int64 (n : Word .int64) : Value :=
  number (.int64 n)

/-- A count as a 32-bit integer, modulo the size of that kind. -/
def count (n : Nat) : Value :=
  number (.ofNat32 n)

def single (x : Float32) : Value :=
  number (.single x)

def double (x : Float) : Value :=
  number (.double x)

def decimal (d : Decimal) : Value :=
  number (.decimal d)

/-- The name of the form that a value has. -/
def kindName : Value → String
  | null => "null"
  | boolean _ => "Boolean"
  | number n => n.kind.name
  | string _ => "String"
  | dateTime _ => "DateTime"
  | dateTimeOffset _ => "DateTimeOffset"
  | timeSpan _ => "TimeSpan"
  | guid _ => "Guid"
  | dayOfWeek _ => "DayOfWeek"
  | array _ => "Array"
  | record .. => "Record"

def isNull : Value → Bool
  | null => true
  | _ => false

def isNaN : Value → Bool
  | number n => n.isNaN
  | _ => false

/-! ### Equality -/

mutual

/-- Equality of values: numeric within a kind, of instants for dates with an offset, and item by
item for arrays and records. -/
def same : Value → Value → Bool
  | null, null => true
  | boolean a, boolean b => a == b
  | number a, number b => a.same b
  | string a, string b => a == b
  | dateTime a, dateTime b => a == b
  | dateTimeOffset a, dateTimeOffset b => a.utc == b.utc
  | timeSpan a, timeSpan b => a == b
  | guid a, guid b => a == b
  | dayOfWeek a, dayOfWeek b => a == b
  | array as, array bs => sameItems as bs
  | record fs as, record gs bs => decide (fs = gs) && sameItems as bs
  | _, _ => false

def sameItems : List Value → List Value → Bool
  | [], [] => true
  | a :: as, b :: bs => same a b && sameItems as bs
  | _, _ => false

end

/-! ### Types -/

/-- Whether a value may flow where the type is expected. -/
def conformsTo : Ty → Value → Bool
  | .object, _ => true
  | .nullable t, v => v.isNull || conformsTo t v
  | .array t, .array items | .sequence t, .array items => items.all (conformsTo t)
  | .boolean, .boolean _ => true
  | .numeric k, .number n => n.kind == k
  | .string, .string _ => true
  | .dateTime, .dateTime _ => true
  | .dateTimeOffset, .dateTimeOffset _ => true
  | .timeSpan, .timeSpan _ => true
  | .guid, .guid _ => true
  | .dayOfWeek, .dayOfWeek _ => true
  | .record fields, .record fields' _ => decide (fields = fields')
  | t, .null => t.acceptsNull
  | _, _ => false

/-- The value of a field, whose name may be spelled in either case. -/
def field? (fields : List (String × Ty)) (values : List Value) (name : String) : Option Value :=
  (Ty.fieldIndex? fields name).bind (values[·]?)

end Value

/-- The value of a slot of the type that was never filled. -/
def Ty.default : Ty → Value
  | .boolean => .boolean false
  | .numeric k => .number (.zero k)
  | .dateTime => .dateTime .epoch
  | .dateTimeOffset => .dateTimeOffset ⟨.epoch, 0⟩
  | .timeSpan => .timeSpan .zero
  | .guid => .guid .zero
  | .dayOfWeek => .dayOfWeek (.zero .int32)
  | .null | .object | .string | .nullable _ | .array _ | .sequence _ | .record _ => .null

end Elementwise
