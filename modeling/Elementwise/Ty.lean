import Elementwise.Number.Kind
import Elementwise.Text.Case

/-!
The static types of expressions: the scalar types, nullable wrappers of them, arrays and sequences
of elements, and records with named fields.  Two record types are the same when their fields agree
in name, type and order.
-/

namespace Elementwise

open Number (NumericKind WordKind)

inductive Ty where
  /-- the type of the literal `null` -/
  | null
  | object
  | boolean
  | numeric (k : NumericKind)
  | string
  | dateTime
  | dateTimeOffset
  | timeSpan
  | guid
  | dayOfWeek
  | nullable (inner : Ty)
  | array (element : Ty)
  | sequence (element : Ty)
  | record (fields : List (String × Ty))

namespace Ty

abbrev char : Ty := numeric .char

abbrev word (k : WordKind) : Ty := numeric (.word k)

abbrev int32 : Ty := word .int32

abbrev int64 : Ty := word .int64

abbrev single : Ty := numeric .single

abbrev double : Ty := numeric .double

abbrev decimal : Ty := numeric .decimal

/-! ### Equality -/

mutual

protected def beq : Ty → Ty → Bool
  | null, null | object, object | boolean, boolean | string, string | dateTime, dateTime => true
  | dateTimeOffset, dateTimeOffset | timeSpan, timeSpan | guid, guid => true
  | dayOfWeek, dayOfWeek => true
  | numeric j, numeric k => j == k
  | nullable a, nullable b => Ty.beq a b
  | array a, array b => Ty.beq a b
  | sequence a, sequence b => Ty.beq a b
  | record fs, record gs => beqFields fs gs
  | _, _ => false

def beqFields : List (String × Ty) → List (String × Ty) → Bool
  | [], [] => true
  | (m, s) :: fs, (n, t) :: gs => m == n && Ty.beq s t && beqFields fs gs
  | _, _ => false

end

mutual

theorem beq_iff : (s t : Ty) → (Ty.beq s t = true ↔ s = t)
  | nullable a, t => by cases t <;> simp [Ty.beq, beq_iff a]
  | array a, t => by cases t <;> simp [Ty.beq, beq_iff a]
  | sequence a, t => by cases t <;> simp [Ty.beq, beq_iff a]
  | record fs, t => by cases t <;> simp [Ty.beq, beqFields_iff fs]
  | null, t => by cases t <;> simp [Ty.beq]
  | object, t => by cases t <;> simp [Ty.beq]
  | boolean, t => by cases t <;> simp [Ty.beq]
  | numeric _, t => by cases t <;> simp [Ty.beq]
  | string, t => by cases t <;> simp [Ty.beq]
  | dateTime, t => by cases t <;> simp [Ty.beq]
  | dateTimeOffset, t => by cases t <;> simp [Ty.beq]
  | timeSpan, t => by cases t <;> simp [Ty.beq]
  | guid, t => by cases t <;> simp [Ty.beq]
  | dayOfWeek, t => by cases t <;> simp [Ty.beq]

theorem beqFields_iff : (fs gs : List (String × Ty)) → (beqFields fs gs = true ↔ fs = gs)
  | [], gs => by cases gs <;> simp [beqFields]
  | (m, s) :: fs, gs => by
    rcases gs with _ | ⟨⟨n, t⟩, gs⟩ <;>
      simp [beqFields, beq_iff s, beqFields_iff fs, and_assoc]

end

instance : DecidableEq Ty := fun s t =>
  decidable_of_iff (Ty.beq s t = true) (beq_iff s t)

/-! ### Classification -/

def numericKind? : Ty → Option NumericKind
  | numeric k => some k
  | _ => none

/-- A number proper; a character converts like one but is none. -/
def isNumeric : Ty → Bool
  | numeric k => k != .char
  | _ => false

/-- Types whose values may be `null` without a nullable wrapper. -/
def isReference : Ty → Bool
  | null | object | string | array _ | sequence _ | record _ => true
  | _ => false

def isNullable : Ty → Bool
  | nullable _ => true
  | _ => false

def isValueType (t : Ty) : Bool :=
  !t.isReference && !t.isNullable

def acceptsNull (t : Ty) : Bool :=
  t.isReference || t.isNullable

/-- The wrapped type of a nullable type, and any other type itself. -/
def underlying : Ty → Ty
  | nullable t => t
  | t => t

/-- The type with `null` among its values. -/
def asNullable (t : Ty) : Ty :=
  if t.isValueType then nullable t else t

def element? : Ty → Option Ty
  | array t | sequence t => some t
  | _ => none

def isEnumerable (t : Ty) : Bool :=
  t.element?.isSome

/-- Types with an order that comparisons, sorting and extrema can use. -/
def isOrdered : Ty → Bool
  | numeric _ | string | dateTime | dateTimeOffset | timeSpan | dayOfWeek | boolean | guid => true
  | _ => false

/-- The position of a field, whose name may be spelled in either case. -/
def fieldIndex? (fields : List (String × Ty)) (name : String) : Option Nat :=
  fields.findIdx? fun (n, _) => Text.fold n == Text.fold name

/-! ### Names -/

mutual

def name : Ty → String
  | null => "null"
  | object => "Object"
  | boolean => "Boolean"
  | numeric k => k.name
  | string => "String"
  | dateTime => "DateTime"
  | dateTimeOffset => "DateTimeOffset"
  | timeSpan => "TimeSpan"
  | guid => "Guid"
  | dayOfWeek => "DayOfWeek"
  | nullable t => "Nullable<" ++ t.name ++ ">"
  | array t => t.name ++ "[]"
  | sequence t => "IEnumerable<" ++ t.name ++ ">"
  | record fields =>
    if fields.isEmpty then "\x7b \x7d"
    else "\x7b " ++ ", ".intercalate (fieldNames fields) ++ " \x7d"

def fieldNames : List (String × Ty) → List String
  | [] => []
  | (n, t) :: fields => (n ++ ": " ++ t.name) :: fieldNames fields

end

end Ty

end Elementwise
