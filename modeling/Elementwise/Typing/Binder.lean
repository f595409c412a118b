import Elementwise.Typing.Binding

/-!
A binder types expressions one after the other.  The parameters in scope are a stack that it works on:
an argument that works on items pushes its parameter, is typed, and pops the parameter, whether it
has a type or not.  A step that fails ends the typing of the expression and leaves the stack as it
then is.
-/

namespace Elementwise.Typing

/-- A step of typing that works on a stack of scopes, innermost first, and leaves a stack behind also
when it fails. -/
abbrev Scoped := ExceptT TypeError (StateM (List Scope))

namespace Scoped

/-- A step that reads the stack. -/
def reads {α : Type} (f : List Scope → Typed α) : Scoped α := do
  f (← get)

/-- A step with one more scope on the stack. -/
def within {α : Type} (s : Scope) (step : Scoped α) : Scoped α := ExceptT.mk do
  modify (s :: ·)
  let result ← step.run
  modify List.tail
  return result

/-- An argument that is still to be typed. -/
structure Argument where
  offset : Nat
  /-- the argument as a value -/
  value : Scoped Term
  /-- the argument as a function of an item of the type -/
  body : Ty → Scoped Term

namespace Query

open Typing.Query (Plan aggregateKind? averageType)

/-! ### Numbers of arguments -/

def wrongArity (name : Ident) (expected : List Nat) (args : List Argument) : TypeError :=
  .wrongArity name.name expected args.length name.offset

def noArgument (name : Ident) : List Argument → Typed Unit
  | [] => .ok ()
  | args => .error (wrongArity name [0] args)

def oneArgument (name : Ident) : List Argument → Typed Argument
  | [arg] => .ok arg
  | args => .error (wrongArity name [1] args)

def optionalArgument (name : Ident) : List Argument → Typed (Option Argument)
  | [] => .ok none
  | [arg] => .ok (some arg)
  | args => .error (wrongArity name [0, 1] args)

/-! ### Kinds of arguments -/

variable (item : Ty)

def predicate (arg : Argument) : Scoped Term := do
  let body ← arg.body item
  if body.ty = .boolean then return body
  else throw (.typeMismatch .boolean body.ty arg.offset)

def optionalPredicate : Option Argument → Scoped (Option Term)
  | none => return none
  | some arg => return some (← predicate item arg)

def selector : Option Argument → Scoped Term
  | some arg => arg.body item
  | none => return .parameter 0 item

def key (arg? : Option Argument) (name : Ident) (op : QueryOperator) : Scoped Term := do
  let body ← selector item arg?
  if body.ty.underlying.isOrdered then return body
  else throw (.invalidOperand op.name body.ty name.offset)

def operand (target : Ty) (arg : Argument) : Scoped Term := do
  let value ← arg.value
  match value.coerceTo? target with
  | some value => return value
  | none => throw (.typeMismatch target value.ty arg.offset)

def addend (arg? : Option Argument) (name : Ident) (op : QueryOperator) :
    Scoped (Number.NumericKind × Term) := do
  let body ← selector item arg?
  match aggregateKind? body.ty with
  | none => throw (.invalidOperand op.name body.ty name.offset)
  | some k =>
    match body.coerceTo? (.numeric k) with
    | some body => return (k, body)
    | none => throw (.typeMismatch (.numeric k) body.ty name.offset)

/-! ### Queries -/

def plan (op : QueryOperator) (name : Ident) (args : List Argument) : Scoped Plan := do
  match op with
  | .select =>
    let body ← (← oneArgument name args).body item
    return { query := .select, body := body, ty := .sequence body.ty }
  | .filter =>
    let body ← predicate item (← oneArgument name args)
    return { query := .filter, body := body, ty := .sequence item }
  | .orderBy | .orderByDescending =>
    let body ← key item (some (← oneArgument name args)) name op
    return { query := .orderBy (op = .orderByDescending), body := body, ty := .sequence item }
  | .toArray =>
    noArgument name args
    return { query := .toArray, ty := .array item }
  | .count =>
    let body ← optionalPredicate item (← optionalArgument name args)
    return { query := .count, body := body, ty := .int32 }
  | .any =>
    let body ← optionalPredicate item (← optionalArgument name args)
    return { query := .any, body := body, ty := .boolean }
  | .all =>
    let body ← predicate item (← oneArgument name args)
    return { query := .all, body := body, ty := .boolean }
  | .first =>
    let body ← optionalPredicate item (← optionalArgument name args)
    return { query := .first, body := body, ty := item }
  | .firstOrDefault =>
    let body ← optionalPredicate item (← optionalArgument name args)
    return { query := .firstOrDefault item.default, body := body, ty := item }
  | .last =>
    let body ← optionalPredicate item (← optionalArgument name args)
    return { query := .last, body := body, ty := item }
  | .lastOrDefault =>
    let body ← optionalPredicate item (← optionalArgument name args)
    return { query := .lastOrDefault item.default, body := body, ty := item }
  | .sum =>
    let (k, body) ← addend item (← optionalArgument name args) name op
    return { query := .sum k, body := body, ty := .numeric k }
  | .average =>
    let (k, body) ← addend item (← optionalArgument name args) name op
    return { query := .average k, body := body, ty := averageType k }
  | .min =>
    let body ← key item (← optionalArgument name args) name op
    return { query := .min, body := body, ty := body.ty }
  | .max =>
    let body ← key item (← optionalArgument name args) name op
    return { query := .max, body := body, ty := body.ty }
  | .contains =>
    let value ← operand item (← oneArgument name args)
    return { query := .contains, args := [value], ty := .boolean }
  | .take =>
    let count ← operand .int32 (← oneArgument name args)
    return { query := .take, args := [count], ty := .sequence item }
  | .skip =>
    let count ← operand .int32 (← oneArgument name args)
    return { query := .skip, args := [count], ty := .sequence item }
  | .distinct =>
    noArgument name args
    return { query := .distinct, ty := .sequence item }
  | .reverse =>
    noArgument name args
    return { query := .reverse, ty := .sequence item }

end Query

def query (source : Term) (item : Ty) (op : QueryOperator) (name : Ident) (args : List Argument)
    (conditional : Bool) : Scoped Term := do
  let p ← Query.plan item op name args
  let ty := if conditional then p.ty.asNullable else p.ty
  return .query p.query source p.body p.args conditional ty

/-! ### Members -/

/-- The arguments as values, in order. -/
def values (args : List Argument) : Scoped (List Term) :=
  args.mapM fun arg => arg.value

def bindStaticCall (s : LibrarySymbol) (name : Ident) (args : List Argument) : Scoped Term := do
  let overloads ← method s.members s.name name
  let (signature, args) ← overloadedCall overloads (← values args) name
  return .call signature.builtin args false signature.result

def bindInstanceCall (receiver : Term) (name : Ident) (args : List Argument) (np : Bool) :
    Scoped Term := do
  let conditional := isConditional np receiver.ty
  let members := (memberType conditional receiver.ty).members
  let conditional := conditional && (Member.find? members name.name).isSome
  let members := (memberType conditional receiver.ty).members
  let overloads ← method members receiver.ty.name name
  let (s, args) ← overloadedCall overloads (← values args) name
  return .call s.builtin (withReceiver receiver s args) conditional
    (resultType conditional s.result)

def bindMethodCall (receiver : Term) (name : Ident) (args : List Argument) (np : Bool) :
    Scoped Term :=
  let conditional := isConditional np receiver.ty
  match (memberType conditional receiver.ty).element?, QueryOperator.ofName? name.name with
  | some item, some op => query receiver item op name args conditional
  | _, _ => bindInstanceCall receiver name args np

def bindIndex (receiver : Term) (args : List Argument) (offset : Nat) (np : Bool) :
    Scoped Term := do
  let conditional := isConditional np receiver.ty
  let lookup := memberType conditional receiver.ty
  match indexed? lookup, args with
  | none, _ => throw (.notIndexable lookup offset)
  | some item, [arg] =>
    let index ← arg.value
    match index.coerceTo? .int32 with
    | some index => return .index receiver index conditional (resultType conditional item)
    | none => throw (.typeMismatch .int32 index.ty offset)
  | some _, args => throw (.wrongArity "indexer" [1] args.length offset)

/-! ### Conversions -/

def bindConversion (target : Ty) (name : Ident) (args : List Argument) : Scoped Term :=
  match args with
  | [arg] => do (← arg.value).convertTo target name.offset
  | args => throw (.wrongArity name.name [1] args.length name.offset)

def bindNullableConversion (catalog : Catalog) (name : Ident) (args : List Argument) :
    Scoped Term := do
  let t ← conversionTarget catalog name
  if t.isValueType then bindConversion t.asNullable name args
  else throw (.notNullable t name.offset)

/-! ### Expressions -/

mutual

/-- Types an expression; `np` says that it is a receiver inside `np(…)`. -/
def bind (catalog : Catalog) : Expr → (np : Bool) → Scoped Term
  | .literal l, _ => return bindLiteral l
  | .null, _ => return .constant .null .null
  | .it offset, _ => reads (bindIt offset)
  | .identifier id, _ => reads (bindName catalog id)
  | .member object name, np => do
    match symbol? catalog (← get) object with
    | some s => bindConstant s name
    | none => bindProperty (← bind catalog object np) name np
  | .index object args offset, np => do
    bindIndex (← bind catalog object np) (arguments catalog args) offset np
  | .call (.identifier id) args offset, _ => do
    if (parameter? id.key (← get)).isSome then throw (.notCallable offset)
    else bindConversion (← conversionTarget catalog id) id (arguments catalog args)
  | .call (.member object name) args _, np => do
    match symbol? catalog (← get) object with
    | some s => bindStaticCall s name (arguments catalog args)
    | none => bindMethodCall (← bind catalog object np) name (arguments catalog args) np
  | .call _ _ offset, _ => throw (.notCallable offset)
  | .nullableConversion target args, _ =>
    bindNullableConversion catalog target (arguments catalog args)
  | .unary op operand offset, _ => do
    unary op (← bind catalog operand false) offset
  | .binary op left right offset, _ => do
    let left ← bind catalog left false
    let right ← bind catalog right false
    match op with
    | .coalesce => coalesce left right offset
    | op => binary op left right offset
  | .conditional condition whenTrue whenFalse offset, _ => do
    let condition ← bind catalog condition false
    if condition.ty ≠ .boolean then throw (.typeMismatch .boolean condition.ty offset)
    else
      let whenTrue ← bind catalog whenTrue false
      let whenFalse ← bind catalog whenFalse false
      let (whenTrue, whenFalse) ← unify whenTrue whenFalse offset
      return .choice condition whenTrue whenFalse whenTrue.ty
  | .nullPropagation operand _, _ => bind catalog operand true
  | .array elements offset, _ => do
    bindArray (← values (arguments catalog elements)) offset
  | .record members _, _ => do
    let (fields, values) ← bindMembers catalog members []
    return .record fields values
  | .lambda param _, _ => throw (.misplacedLambda param.offset)

/-- The arguments of a call.  As a function of an item, a lambda names its parameter, and any other
expression calls it `it`. -/
def arguments (catalog : Catalog) : List Expr → List Argument
  | [] => []
  | .lambda param body :: args =>
    { offset := param.offset
      value := throw (.misplacedLambda param.offset)
      body := fun item => within ⟨param.key, item⟩ (bind catalog body false) } ::
      arguments catalog args
  | arg :: args =>
    { offset := arg.offset
      value := bind catalog arg false
      body := fun item => within ⟨itKey, item⟩ (bind catalog arg false) } ::
      arguments catalog args

/-- The fields of a record literal after those that are `given`; their names have to differ. -/
def bindMembers (catalog : Catalog) :
    List (Ident × Expr) → (given : List String) → Scoped (List (String × Ty) × List Term)
  | [], _ => return ([], [])
  | (name, e) :: members, given => do
    if given.contains name.key then throw (.duplicateMember name.name name.offset)
    else
      let value ← bind catalog e false
      let value := if value.isNullLiteral then value.coerce .nullLiteral .object else value
      let (fields, values) ← bindMembers catalog members (name.key :: given)
      return ((name.name, value.ty) :: fields, value :: values)

end

end Scoped

/-! ### Binders -/

/-- What is kept from one expression to the next. -/
structure Binder where
  catalog : Catalog
  scopes : List Scope

namespace Binder

/-- A binder for inputs of the type. -/
def new (catalog : Catalog) (input : Ty) : Binder :=
  { catalog := catalog, scopes := [⟨itKey, input⟩] }

/-- Types an expression, and leaves the binder for the next one. -/
def bind (b : Binder) (e : Expr) : Typed Term × Binder :=
  let (result, scopes) := (Scoped.bind b.catalog e false).run b.scopes
  (result, { b with scopes := scopes })

/-- Types expressions one after the other. -/
def bindAll (b : Binder) : List Expr → List (Typed Term) × Binder
  | [] => ([], b)
  | e :: es =>
    let (result, b) := b.bind e
    let (results, b) := b.bindAll es
    (result :: results, b)

end Binder

end Elementwise.Typing
