import Elementwise.Library.Builtin
import Elementwise.Operator
import Elementwise.Value.Basic

/-!
Typed expressions.  All names are resolved, every part carries its type, and every conversion is a
part of its own, so that evaluation needs no types.  Parameters are numbered from the innermost.
-/

namespace Elementwise

open Number (NumericKind)

/-- The conversions that are made without being asked for; none of them can fail. -/
inductive Coercion where
  /-- to a kind that holds the number -/
  | numeric (k : NumericKind)
  /-- the same for nullable numbers -/
  | liftedNumeric (k : NumericKind)
  /-- to the nullable type -/
  | wrap
  /-- to any object -/
  | box
  /-- of the literal `null` to a type with `null` -/
  | nullLiteral
  /-- between arrays and sequences -/
  | upcast
  deriving DecidableEq

namespace Coercion

/-- Whether the value stays as it is. -/
def isIdentity : Coercion → Bool
  | numeric _ | liftedNumeric _ => false
  | wrap | box | nullLiteral | upcast => true

end Coercion

/-- The conversions that a conversion call asks for; lifted ones leave `null` alone. -/
inductive Conversion where
  | numeric (target : NumericKind) (lifted : Bool)
  | toDayOfWeek (lifted : Bool)
  | ofDayOfWeek (lifted : Bool)
  /-- the value of a nullable type that is there -/
  | unwrap
  /-- the value of any object, which has to be of the type -/
  | unbox (t : Ty)
  deriving DecidableEq

/-- The query operators with what their typing adds to them. -/
inductive Query where
  | select
  | filter
  | orderBy (descending : Bool)
  | toArray
  | count
  | any
  | all
  | first
  | firstOrDefault (default : Value)
  | last
  | lastOrDefault (default : Value)
  | sum (k : NumericKind)
  | average (k : NumericKind)
  | min
  | max
  | contains
  | take
  | skip
  | distinct
  | reverse

namespace Query

def name : Query → String
  | select => "Select"
  | filter => "Where"
  | orderBy false => "OrderBy"
  | orderBy true => "OrderByDescending"
  | toArray => "ToArray"
  | count => "Count"
  | any => "Any"
  | all => "All"
  | first => "First"
  | firstOrDefault _ => "FirstOrDefault"
  | last => "Last"
  | lastOrDefault _ => "LastOrDefault"
  | sum _ => "Sum"
  | average _ => "Average"
  | min => "Min"
  | max => "Max"
  | contains => "Contains"
  | take => "Take"
  | skip => "Skip"
  | distinct => "Distinct"
  | reverse => "Reverse"

end Query

/-- A typed expression.  Where `conditional` is said of a part, a `null` receiver makes the part
`null` instead of a fault. -/
inductive Term where
  | constant (v : Value) (ty : Ty)
  | parameter (depth : Nat) (ty : Ty)
  | coerce (c : Coercion) (operand : Term) (ty : Ty)
  | convert (c : Conversion) (operand : Term) (ty : Ty)
  | unary (op : UnaryOperator) (operand : Term) (lifted : Bool) (ty : Ty)
  | binary (op : Operation) (left right : Term) (lifted : Bool) (ty : Ty)
  | coalesce (left right : Term) (ty : Ty)
  | choice (condition whenTrue whenFalse : Term) (ty : Ty)
  | call (builtin : Builtin) (args : List Term) (conditional : Bool) (ty : Ty)
  | field (receiver : Term) (index : Nat) (conditional : Bool) (ty : Ty)
  | index (receiver index : Term) (conditional : Bool) (ty : Ty)
  /-- `body`, if there is one, is evaluated with an item as its innermost parameter -/
  | query (q : Query) (source : Term) (body : Option Term) (args : List Term) (conditional : Bool)
      (ty : Ty)
  | array (elements : List Term) (ty : Ty)
  | record (fields : List (String × Ty)) (values : List Term)

namespace Term

def ty : Term → Ty
  | constant _ ty | parameter _ ty | coerce _ _ ty | convert _ _ ty | unary _ _ _ ty
  | binary _ _ _ _ ty | coalesce _ _ ty | choice _ _ _ ty | call _ _ _ ty | field _ _ _ ty
  | index _ _ _ ty | query _ _ _ _ _ ty | array _ ty => ty
  | record fields _ => .record fields

/-- Whether the expression has the type of the literal `null`. -/
def isNullLiteral (t : Term) : Bool :=
  t.ty = .null

end Term

end Elementwise
