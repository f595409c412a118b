import Elementwise.Eval.Conversion
import Elementwise.Json.Basic
import Elementwise.Time.Reading

/-!
Reading JSON as a value of a given type.  Numbers have to fit their kind, and kinds with fractions
are also read from text, which is how their values that are no JSON numbers are written.  Where any
object is expected, the value takes the form that the document suggests.
-/

namespace Elementwise

namespace Json

/-- The name of the form that a document has. -/
def kindName : Json → String
  | null => "null"
  | bool _ => "boolean"
  | number _ => "number"
  | string _ => "string"
  | array _ => "array"
  | object _ => "object"

end Json

/-- A document, or the fault it leads to, where a value of some type was expected. -/
structure Mismatch where
  expected : Ty
  found : String

namespace Mismatch

def message (m : Mismatch) : String :=
  "cannot read " ++ m.found ++ " as " ++ m.expected.name

def ofJson (j : Json) (t : Ty) : Mismatch :=
  ⟨t, j.kindName⟩

def ofFault (f : Fault) (t : Ty) : Mismatch :=
  ⟨t, f.message⟩

end Mismatch

namespace Value

open Number (NumericKind Word)

/-! ### Documents of any type -/

/-- The smallest of the common integer kinds that holds an integer, or a double. -/
def inferNumber (n : JsonNumber) : Value :=
  match n.int64?, n.uint64? with
  | some i, _ =>
    match Word.ofInt? .int32 i with
    | some w => .int32 w
    | none => .int64 (.wrap .int64 i)
  | none, some u => .number (.word .uint64 (.wrap .uint64 u))
  | none, none => .double n.toFloat

mutual

/-- The value whose form a document suggests; objects become records. -/
def infer : Json → Value
  | .null => .null
  | .bool b => .boolean b
  | .number n => inferNumber n
  | .string s => .string s
  | .array items => .array (inferItems items)
  | .object members => .record (members.map fun (name, _) => (name, .object)) (inferMembers members)

def inferItems : List Json → List Value
  | [] => []
  | j :: js => infer j :: inferItems js

def inferMembers : List (String × Json) → List Value
  | [] => []
  | (_, j) :: members => infer j :: inferMembers members

end

/-! ### Documents of a type -/

/-- The number that a document denotes before it is converted to the kind. -/
def numberSource (j : Json) (k : NumericKind) : Except Mismatch Value :=
  let mismatch := Mismatch.ofJson j (.numeric k)
  match j with
  | .number n =>
    match n.int64?, n.uint64? with
    | some i, _ => .ok (.int64 (.wrap .int64 i))
    | none, some u => .ok (.number (.word .uint64 (.wrap .uint64 u)))
    | none, none =>
      if k = .decimal then
        match Decimal.parse? n.text with
        | some d => .ok (.decimal d)
        | none => .error mismatch
      else if k.integral then .error mismatch
      else .ok (.double n.toFloat)
  | .string s =>
    if k.integral then .error mismatch
    else if s = "NaN" then .ok (.double (0.0 / 0.0))
    else if s = "Infinity" then .ok (.double (1.0 / 0.0))
    else if s = "-Infinity" then .ok (.double (-1.0 / 0.0))
    else (Eval.parse s k).mapError fun _ => mismatch
  | _ => .error mismatch

def decodeNumber (j : Json) (k : NumericKind) : Except Mismatch Value := do
  let source ← numberSource j k
  (Eval.convert source k).mapError fun f => .ofFault f (.numeric k)

/-- A value of a type without parts, from a document other than `null`. -/
def decodeScalar? (t : Ty) (j : Json) : Option Value :=
  match t, j with
  | .boolean, .bool b => some (.boolean b)
  | .string, .string s => some (.string s)
  | .numeric .char, .string s =>
    match s.toList with
    | [c] => some (.char c)
    | _ => none
  | .dateTime, .string s => (Time.DateTime.parse? s.toList).map .dateTime
  | .dateTimeOffset, .string s => (Time.OffsetDateTime.parse? s.toList).map .dateTimeOffset
  | .timeSpan, .string s => (Time.spanTicks? s.toList).map (.timeSpan <| .ofTicks ·)
  | .timeSpan, .number n => n.int64?.map (.timeSpan <| .ofTicks ·)
  | .guid, .string s => (Guid.parse? s.toList).map .guid
  | .dayOfWeek, .string s => (DayOfWeek.ofName? s).map .dayOfWeek
  | .dayOfWeek, .number n => (n.int64?.bind (Word.ofInt? .int32)).map .dayOfWeek
  | _, _ => none

/-- Reads a document as a value of the type. -/
def decode : Ty → Json → Except Mismatch Value
  | .object, j => .ok (infer j)
  | .nullable _, .null => .ok .null
  | .nullable t, j => decode t j
  | .array t, .array items | .sequence t, .array items => (items.mapM (decode t)).map .array
  | .numeric k, j =>
    if k = .char then
      match decodeScalar? (.numeric k) j with
      | some v => .ok v
      | none => .error (.ofJson j (.numeric k))
    else decodeNumber j k
  | t, .null => if t.acceptsNull then .ok .null else .error (.ofJson .null t)
  | t, j =>
    match decodeScalar? t j with
    | some v => .ok v
    | none => .error (.ofJson j t)

end Value

end Elementwise
