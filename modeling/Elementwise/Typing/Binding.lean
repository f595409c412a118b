import Elementwise.Library.Catalog
import Elementwise.Library.Instance
import Elementwise.Typing.Operator
import Elementwise.Typing.Overload
import Elementwise.Typing.Query

/-!
From expressions to typed expressions.  A name refers to the innermost parameter of that name, and
otherwise to a symbol of the catalog.  Inside `np(…)` a receiver that may be `null` makes the member
access, call or indexing conditional; this reaches through receivers only.
-/

namespace Elementwise.Typing

/-! ### Names -/

/-- The number and the type of the innermost parameter of a name. -/
def parameter? (key : String) (scopes : List Scope) : Option (Nat × Ty) :=
  (scopes.zipIdx.find? fun (s, _) => s.key == key).map fun (s, depth) => (depth, s.ty)

/-- The form in which the name `it` is compared. -/
def itKey : String :=
  "it"

def bindIt (offset : Nat) (scopes : List Scope) : Typed Term :=
  match parameter? itKey scopes with
  | some (depth, ty) => .ok (.parameter depth ty)
  | none => .error (.unknownIdentifier itKey offset)

def bindName (catalog : Catalog) (id : Ident) (scopes : List Scope) : Typed Term :=
  match parameter? id.key scopes with
  | some (depth, ty) => .ok (.parameter depth ty)
  | none =>
    match catalog.lookup id.name with
    | some _ => .error (.typeUsedAsValue id.name id.offset)
    | none => .error (.unknownIdentifier id.name id.offset)

/-- The symbol that a bare name refers to if no parameter has the name. -/
def symbol? (catalog : Catalog) (scopes : List Scope) : Expr → Option LibrarySymbol
  | .identifier id =>
    if (parameter? id.key scopes).isSome then none else catalog.lookup id.name
  | _ => none

/-- The type that a conversion to a name leads to. -/
def conversionTarget (catalog : Catalog) (id : Ident) : Typed Ty :=
  match catalog.lookup id.name with
  | none => .error (.unknownIdentifier id.name id.offset)
  | some s =>
    match s.target? with
    | some t => .ok t
    | none => .error (.typeUsedAsValue id.name id.offset)

/-! ### Members of symbols -/

def unknownMember (type : String) (name : Ident) : TypeError :=
  .unknownMember name.name type name.offset

/-- A member of a symbol that is not called. -/
def bindConstant (s : LibrarySymbol) (name : Ident) : Typed Term :=
  match s.member? name.name with
  | some (.constant _ ty value) => .ok (.constant value ty)
  | some (.method method _) => .error (.methodWithoutCall method name.offset)
  | some (.property ..) | none => .error (unknownMember s.name name)

/-- The overloads of a method among the members of something of the named type. -/
def method (members : List Member) (type : String) (name : Ident) : Typed (List Signature) :=
  match Member.find? members name.name with
  | some (.method _ overloads) => .ok overloads
  | some _ => .error (.notCallable name.offset)
  | none => .error (unknownMember type name)

/-- The arguments as values, in order. -/
def values (args : List Argument) (scopes : List Scope) : Typed (List Term) :=
  args.mapM fun arg => arg.value scopes

def bindStaticCall (s : LibrarySymbol) (name : Ident) (args : List Argument)
    (scopes : List Scope) : Typed Term := do
  let overloads ← method s.members s.name name
  let (signature, args) ← overloadedCall overloads (← values args scopes) name
  .ok (.call signature.builtin args false signature.result)

/-! ### Members of values -/

/-- Whether an access to a receiver of the type is conditional. -/
def isConditional (np : Bool) (t : Ty) : Bool :=
  np && t.acceptsNull && t != .null

/-- The type in which the members of a receiver are looked up. -/
def memberType (conditional : Bool) (t : Ty) : Ty :=
  if conditional then t.underlying else t

def resultType (conditional : Bool) (t : Ty) : Ty :=
  if conditional then t.asNullable else t

/-- A member that is read from a receiver without a call, if the type has one of the name. -/
def property? (receiver : Term) (lookup : Ty) (name : Ident) (conditional : Bool) :
    Option (Typed Term) :=
  let fields := match lookup with
    | .record fields => fields
    | _ => []
  match (Ty.fieldIndex? fields name.name).bind fun i => fields[i]?.map (i, ·.2) with
  | some (i, t) => some (.ok (.field receiver i conditional (resultType conditional t)))
  | none =>
    match Member.find? lookup.members name.name with
    | some (.property _ t b) =>
      some (.ok (.call b [receiver] conditional (resultType conditional t)))
    | some (.constant _ t v) => some (.ok (.constant v t))
    | some (.method m _) => some (.error (.methodWithoutCall m name.offset))
    | none => none

/-- A member read from a receiver: one of its value if the access is conditional, or else one of
the receiver itself. -/
def bindProperty (receiver : Term) (name : Ident) (np : Bool) : Typed Term :=
  let conditional := isConditional np receiver.ty
  let ofValue :=
    if conditional then property? receiver receiver.ty.underlying name true else none
  match ofValue, property? receiver receiver.ty name false with
  | some found, _ => found
  | none, some found => found
  | none, none => .error (unknownMember receiver.ty.name name)

/-- The arguments of a method with the receiver before them; a default that is left out is the
default of the type. -/
def withReceiver (receiver : Term) (s : Signature) (args : List Term) : List Term :=
  if s.builtin = .getValueOrDefault ∧ args.isEmpty then
    [receiver, .constant s.result.default s.result]
  else receiver :: args

/-- A call of a method of a value that is no query operator. -/
def bindInstanceCall (receiver : Term) (name : Ident) (args : List Argument) (np : Bool)
    (scopes : List Scope) : Typed Term := do
  let conditional := isConditional np receiver.ty
  let members := (memberType conditional receiver.ty).members
  let conditional := conditional && (Member.find? members name.name).isSome
  let members := (memberType conditional receiver.ty).members
  let overloads ← method members receiver.ty.name name
  let (s, args) ← overloadedCall overloads (← values args scopes) name
  .ok (.call s.builtin (withReceiver receiver s args) conditional (resultType conditional s.result))

/-- A call of a method of a value; arrays and sequences have the query operators besides. -/
def bindMethodCall (receiver : Term) (name : Ident) (args : List Argument) (np : Bool)
    (scopes : List Scope) : Typed Term :=
  let conditional := isConditional np receiver.ty
  match (memberType conditional receiver.ty).element?, QueryOperator.ofName? name.name with
  | some item, some op => query receiver item op name args conditional scopes
  | _, _ => bindInstanceCall receiver name args np scopes

/-- The type of the items that an index selects. -/
def indexed? : Ty → Option Ty
  | .array t | .sequence t => some t
  | .string => some .char
  | _ => none

def bindIndex (receiver : Term) (args : List Argument) (offset : Nat) (np : Bool)
    (scopes : List Scope) : Typed Term := do
  let conditional := isConditional np receiver.ty
  let lookup := memberType conditional receiver.ty
  match indexed? lookup, args with
  | none, _ => .error (.notIndexable lookup offset)
  | some item, [arg] =>
    let index ← arg.value scopes
    match index.coerceTo? .int32 with
    | some index => .ok (.index receiver index conditional (resultType conditional item))
    | none => .error (.typeMismatch .int32 index.ty offset)
  | some _, args => .error (.wrongArity "indexer" [1] args.length offset)

/-! ### Conversions and literals -/

def bindConversion (target : Ty) (name : Ident) (args : List Argument) (scopes : List Scope) :
    Typed Term :=
  match args with
  | [arg] => do (← arg.value scopes).convertTo target name.offset
  | args => .error (.wrongArity name.name [1] args.length name.offset)

def bindNullableConversion (catalog : Catalog) (name : Ident) (args : List Argument)
    (scopes : List Scope) : Typed Term := do
  let t ← conversionTarget catalog name
  if t.isValueType then bindConversion t.asNullable name args scopes
  else .error (.notNullable t name.offset)

/-- An array literal takes its element type from its first element. -/
def bindArray (elements : List Term) (offset : Nat) : Typed Term :=
  let mismatch (t item : Ty) := TypeError.typeMismatch t item offset
  match elements with
  | [] => .error (.cannotInferElementType offset)
  | first :: others => do
    if first.isNullLiteral then .error (.cannotInferElementType offset)
    else
      let others ← others.mapM fun item =>
        match item.coerceTo? first.ty with
        | some item => .ok item
        | none => .error (mismatch first.ty item.ty)
      .ok (.array (first :: others) (.array first.ty))

def bindLiteral (l : Literal) : Term :=
  match l with
  | .boolean _ => .constant l.value .boolean
  | .char _ => .constant l.value .char
  | .string _ => .constant l.value .string
  | .number n => .constant l.value (.numeric n.kind)

/-! ### Expressions -/

mutual

/-- Types an expression; `np` says that it is a receiver inside `np(…)`. -/
def bind (catalog : Catalog) : Expr → (np : Bool) → List Scope → Typed Term
  | .literal l, _, _ => .ok (bindLiteral l)
  | .null, _, _ => .ok (.constant .null .null)
  | .it offset, _, scopes => bindIt offset scopes
  | .identifier id, _, scopes => bindName catalog id scopes
  | .member object name, np, scopes =>
    match symbol? catalog scopes object with
    | some s => bindConstant s name
    | none => do bindProperty (← bind catalog object np scopes) name np
  | .index object args offset, np, scopes => do
    bindIndex (← bind catalog object np scopes) (arguments catalog args) offset np scopes
  | .call (.identifier id) args offset, _, scopes =>
    if (parameter? id.key scopes).isSome then .error (.notCallable offset)
    else do
      let target ← conversionTarget catalog id
      bindConversion target id (arguments catalog args) scopes
  | .call (.member object name) args _, np, scopes =>
    match symbol? catalog scopes object with
    | some s => bindStaticCall s name (arguments catalog args) scopes
    | none => do
      bindMethodCall (← bind catalog object np scopes) name (arguments catalog args) np scopes
  | .call _ _ offset, _, _ => .error (.notCallable offset)
  | .nullableConversion target args, _, scopes =>
    bindNullableConversion catalog target (arguments catalog args) scopes
  | .unary op operand offset, _, scopes => do
    unary op (← bind catalog operand false scopes) offset
  | .binary op left right offset, _, scopes => do
    let left ← bind catalog left false scopes
    let right ← bind catalog right false scopes
    match op with
    | .coalesce => coalesce left right offset
    | op => binary op left right offset
  | .conditional condition whenTrue whenFalse offset, _, scopes => do
    let condition ← bind catalog condition false scopes
    if condition.ty ≠ .boolean then
      .error (.typeMismatch .boolean condition.ty offset)
    else
      let whenTrue ← bind catalog whenTrue false scopes
      let whenFalse ← bind catalog whenFalse false scopes
      let (whenTrue, whenFalse) ← unify whenTrue whenFalse offset
      .ok (.choice condition whenTrue whenFalse whenTrue.ty)
  | .nullPropagation operand _, _, scopes => bind catalog operand true scopes
  | .array elements offset, _, scopes => do
    bindArray (← values (arguments catalog elements) scopes) offset
  | .record members _, _, scopes => do
    let (fields, values) ← bindMembers catalog members [] scopes
    .ok (.record fields values)
  | .lambda param _, _, _ => .error (.misplacedLambda param.offset)

/-- The arguments of a call.  As a function of an item, a lambda names its parameter, and any other
expression calls it `it`. -/
def arguments (catalog : Catalog) : List Expr → List Argument
  | [] => []
  | .lambda param body :: args =>
    { offset := param.offset
      value := fun _ => .error (.misplacedLambda param.offset)
      body := fun item scopes => bind catalog body false (⟨param.key, item⟩ :: scopes) } ::
      arguments catalog args
  | arg :: args =>
    { offset := arg.offset
      value := fun scopes => bind catalog arg false scopes
      body := fun item scopes => bind catalog arg false (⟨itKey, item⟩ :: scopes) } ::
      arguments catalog args

/-- The fields of a record literal after those that are `given`; their names have to differ. -/
def bindMembers (catalog : Catalog) :
    List (Ident × Expr) → (given : List String) → List Scope →
      Typed (List (String × Ty) × List Term)
  | [], _, _ => .ok ([], [])
  | (name, e) :: members, given, scopes =>
    if given.contains name.key then .error (.duplicateMember name.name name.offset)
    else do
      let value ← bind catalog e false scopes
      let value := if value.isNullLiteral then value.coerce .nullLiteral .object else value
      let (fields, values) ← bindMembers catalog members (name.key :: given) scopes
      .ok ((name.name, value.ty) :: fields, value :: values)

end

/-- Types an expression whose input has the given type. -/
def bindInput (catalog : Catalog) (e : Expr) (input : Ty) : Typed Term :=
  bind catalog e false [⟨itKey, input⟩]

end Elementwise.Typing
