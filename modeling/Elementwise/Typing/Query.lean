import Elementwise.Expr.Basic
import Elementwise.Library.Query
import Elementwise.Typing.Conversion

/-!
Typing of queries.  An argument that works on items is typed in a scope of its own, so arguments
come as functions of the scopes they are typed in.
-/

namespace Elementwise.Typing

open Number (NumericKind)

/-- A parameter in scope, under the form of its name in which names are compared. -/
structure Scope where
  key : String
  ty : Ty

/-- An argument that is still to be typed. -/
structure Argument where
  offset : Nat
  /-- the argument as a value -/
  value : List Scope → Typed Term
  /-- the argument as a function of an item of the type -/
  body : Ty → List Scope → Typed Term

namespace Query

/-! ### Numbers of arguments -/

def wrongArity (name : Ident) (expected : List Nat) (args : List Argument) : TypeError :=
  .wrongArity name.name expected args.length name.offset

def noArgument (name : Ident) : List Argument → Typed Unit
  | [] => .ok ()
  | args => .error (wrongArity name [0] args)

def oneArgument (name : Ident) : List Argument → Typed Argument
  | [arg] => .ok arg
  | args => .error (wrongArity name [1] args)

def optionalArgument (name : Ident) : List Argument → Typed (Option Argument)
  | [] => .ok none
  | [arg] => .ok (some arg)
  | args => .error (wrongArity name [0, 1] args)

/-! ### Kinds of arguments -/

variable (scopes : List Scope) (item : Ty)

/-- A function from items to truth values. -/
def predicate (arg : Argument) : Typed Term := do
  let body ← arg.body item scopes
  if body.ty = .boolean then .ok body else .error (.typeMismatch .boolean body.ty arg.offset)

def optionalPredicate : Option Argument → Typed (Option Term)
  | none => .ok none
  | some arg => (predicate scopes item arg).map some

/-- A function of the items; without an argument, the item itself. -/
def selector : Option Argument → Typed Term
  | some arg => arg.body item scopes
  | none => .ok (.parameter 0 item)

/-- A selector of values that have an order. -/
def key (arg? : Option Argument) (name : Ident) (op : QueryOperator) : Typed Term := do
  let body ← selector scopes item arg?
  if body.ty.underlying.isOrdered then .ok body
  else .error (.invalidOperand op.name body.ty name.offset)

/-- A value of the given type. -/
def operand (target : Ty) (arg : Argument) : Typed Term := do
  let value ← arg.value scopes
  match value.coerceTo? target with
  | some value => .ok value
  | none => .error (.typeMismatch target value.ty arg.offset)

/-- The kinds that sums and averages are computed in, in their order of preference. -/
def aggregateKinds : List NumericKind :=
  [.word .int32, .word .int64, .single, .double, .decimal]

/-- The first of the kinds to which a type converts. -/
def aggregateKind? (t : Ty) : Option NumericKind :=
  aggregateKinds.find? fun k => isImplicit t (.numeric k)

/-- A selector of numbers, converted to the kind they are added in. -/
def addend (arg? : Option Argument) (name : Ident) (op : QueryOperator) :
    Typed (NumericKind × Term) := do
  let body ← selector scopes item arg?
  match aggregateKind? body.ty with
  | none => .error (.invalidOperand op.name body.ty name.offset)
  | some k =>
    match body.coerceTo? (.numeric k) with
    | some body => .ok (k, body)
    | none => .error (.typeMismatch (.numeric k) body.ty name.offset)

/-- The type of the average of numbers of a kind. -/
def averageType : NumericKind → Ty
  | .word .int32 | .word .int64 => .double
  | k => .numeric k

/-! ### Queries -/

/-- A query without its source: the operator, the function of items, the other arguments and the
type of the result. -/
structure Plan where
  query : Elementwise.Query
  body : Option Term := none
  args : List Term := []
  ty : Ty

def plan (op : QueryOperator) (name : Ident) (args : List Argument) : Typed Plan := do
  match op with
  | .select =>
    let body ← (← oneArgument name args).body item scopes
    .ok { query := .select, body := body, ty := .sequence body.ty }
  | .filter =>
    let body ← predicate scopes item (← oneArgument name args)
    .ok { query := .filter, body := body, ty := .sequence item }
  | .orderBy | .orderByDescending =>
    let body ← key scopes item (some (← oneArgument name args)) name op
    .ok { query := .orderBy (op = .orderByDescending), body := body, ty := .sequence item }
  | .toArray =>
    noArgument name args
    .ok { query := .toArray, ty := .array item }
  | .count =>
    let body ← optionalPredicate scopes item (← optionalArgument name args)
    .ok { query := .count, body := body, ty := .int32 }
  | .any =>
    let body ← optionalPredicate scopes item (← optionalArgument name args)
    .ok { query := .any, body := body, ty := .boolean }
  | .all =>
    let body ← predicate scopes item (← oneArgument name args)
    .ok { query := .all, body := body, ty := .boolean }
  | .first =>
    let body ← optionalPredicate scopes item (← optionalArgument name args)
    .ok { query := .first, body := body, ty := item }
  | .firstOrDefault =>
    let body ← optionalPredicate scopes item (← optionalArgument name args)
    .ok { query := .firstOrDefault item.default, body := body, ty := item }
  | .last =>
    let body ← optionalPredicate scopes item (← optionalArgument name args)
    .ok { query := .last, body := body, ty := item }
  | .lastOrDefault =>
    let body ← optionalPredicate scopes item (← optionalArgument name args)
    .ok { query := .lastOrDefault item.default, body := body, ty := item }
  | .sum =>
    let (k, body) ← addend scopes item (← optionalArgument name args) name op
    .ok { query := .sum k, body := body, ty := .numeric k }
  | .average =>
    let (k, body) ← addend scopes item (← optionalArgument name args) name op
    .ok { query := .average k, body := body, ty := averageType k }
  | .min =>
    let body ← key scopes item (← optionalArgument name args) name op
    .ok { query := .min, body := body, ty := body.ty }
  | .max =>
    let body ← key scopes item (← optionalArgument name args) name op
    .ok { query := .max, body := body, ty := body.ty }
  | .contains =>
    let value ← operand scopes item (← oneArgument name args)
    .ok { query := .contains, args := [value], ty := .boolean }
  | .take =>
    let count ← operand scopes .int32 (← oneArgument name args)
    .ok { query := .take, args := [count], ty := .sequence item }
  | .skip =>
    let count ← operand scopes .int32 (← oneArgument name args)
    .ok { query := .skip, args := [count], ty := .sequence item }
  | .distinct =>
    noArgument name args
    .ok { query := .distinct, ty := .sequence item }
  | .reverse =>
    noArgument name args
    .ok { query := .reverse, ty := .sequence item }

end Query

/-- A query over a source whose items have the type `item`. -/
def query (source : Term) (item : Ty) (op : QueryOperator) (name : Ident) (args : List Argument)
    (conditional : Bool) (scopes : List Scope) : Typed Term := do
  let p ← Query.plan scopes item op name args
  let ty := if conditional then p.ty.asNullable else p.ty
  .ok (.query p.query source p.body p.args conditional ty)

end Elementwise.Typing
