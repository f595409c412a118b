import Elementwise.Proofs.Relabelling.Parser
import Elementwise.Typing.Binding
import Mathlib.Data.List.Forall2
import Mathlib.Data.Option.Defs

/-!
# Typing does not see how names are written or where they stand

Names are looked up by keys that a relabelling does not change: parameters and fields by
`Text.fold`, symbols in the catalog by their keys, members and query operators by
`Text.sameIgnoringAsciiCase`.  Offsets enter errors only.  So an expression and the expression
relabelled get the same typed expression, or fail for the same reason.  The one place where the
spelling of a name enters a type is a member of a record literal: there the relabelling has to keep
names.
-/

namespace Elementwise

namespace Expr

mutual

/-- Whether a record literal with members is part of the expression. -/
def hasRecord : Expr → Bool
  | literal _ | null | it _ | identifier _ => false
  | member object _ => object.hasRecord
  | index object args _ => object.hasRecord || anyHasRecord args
  | call callee args _ => callee.hasRecord || anyHasRecord args
  | nullableConversion _ args => anyHasRecord args
  | unary _ operand _ => operand.hasRecord
  | binary _ left right _ => left.hasRecord || right.hasRecord
  | conditional c a b _ => c.hasRecord || a.hasRecord || b.hasRecord
  | nullPropagation operand _ => operand.hasRecord
  | array elements _ => anyHasRecord elements
  | record members _ => !members.isEmpty
  | lambda _ body => body.hasRecord

def anyHasRecord : List Expr → Bool
  | [] => false
  | e :: es => e.hasRecord || anyHasRecord es

end

end Expr

namespace Relabelling

variable (r : Relabelling)

/-- The error with the names that it quotes and its offset relabelled. -/
def typeError : TypeError → TypeError
  | .unknownIdentifier name offset => .unknownIdentifier (r.name name) (r.offset offset)
  | .unknownMember member type offset => .unknownMember (r.name member) type (r.offset offset)
  | .invalidConversion source target offset => .invalidConversion source target (r.offset offset)
  | .incompatibleOperands op left right offset =>
    .incompatibleOperands op left right (r.offset offset)
  | .invalidOperand op ty offset => .invalidOperand op ty (r.offset offset)
  | .typeMismatch expected found offset => .typeMismatch expected found (r.offset offset)
  | .notNullable ty offset => .notNullable ty (r.offset offset)
  | .wrongArity name expected found offset =>
    .wrongArity (r.name name) expected found (r.offset offset)
  | .noMatchingOverload name args offset => .noMatchingOverload (r.name name) args (r.offset offset)
  | .ambiguousCall name args offset => .ambiguousCall (r.name name) args (r.offset offset)
  | .duplicateMember name offset => .duplicateMember (r.name name) (r.offset offset)
  | .cannotInferElementType offset => .cannotInferElementType (r.offset offset)
  | .misplacedLambda offset => .misplacedLambda (r.offset offset)
  | .typeUsedAsValue name offset => .typeUsedAsValue (r.name name) (r.offset offset)
  | .methodWithoutCall name offset => .methodWithoutCall name (r.offset offset)
  | .notCallable offset => .notCallable (r.offset offset)
  | .notIndexable ty offset => .notIndexable ty (r.offset offset)
  | .invalidPattern pattern offset => .invalidPattern pattern (r.offset offset)

/-! ### Lookups -/

theorem key_ident (id : Ident) : (r.ident id).key = id.key :=
  r.fold_name id.name

theorem lookup_name (catalog : Catalog) (name : String) :
    catalog.lookup (r.name name) = catalog.lookup name := by
  rw [Catalog.lookup, Catalog.lookup, r.fold_name]

theorem find?_name (members : List Member) (name : String) :
    Member.find? members (r.name name) = Member.find? members name := by
  simp only [Member.find?, r.sameIgnoringAsciiCase_name]

theorem ofName?_name (name : String) :
    QueryOperator.ofName? (r.name name) = QueryOperator.ofName? name := by
  simp only [QueryOperator.ofName?, r.sameIgnoringAsciiCase_name]

theorem fieldIndex?_name (fields : List (String × Ty)) (name : String) :
    Ty.fieldIndex? fields (r.name name) = Ty.fieldIndex? fields name := by
  simp only [Ty.fieldIndex?, r.fold_name]

end Relabelling

namespace Typing

variable {α β : Type} (r : Relabelling)

/-- The same result, or errors that differ in the names that they quote and in their offsets. -/
abbrev SameTyped (o o' : Typed α) : Prop :=
  Tracks r.typeError id o o'

variable {r} {catalog : Catalog} {scopes : List Scope}

/-- Steps that are taken alike on every item are taken alike on all. -/
theorem mapM_same {γ : Type} {f : α → Typed γ} {f' : β → Typed γ} {as : List α} {bs : List β}
    (h : List.Forall₂ (fun a b => SameTyped r (f a) (f' b)) as bs) :
    SameTyped r (as.mapM f) (bs.mapM f') := by
  induction h with
  | nil => exact .ok []
  | cons h _ ih =>
      rw [List.mapM_cons, List.mapM_cons]
      apply h.bind
      intro c
      apply ih.bind
      intro cs
      exact .ok (c :: cs)

/-! ### Steps that fail at a given place -/

section Places

variable {n n' : Nat} (hn : r.offset n' = r.offset n)
include hn

theorem convertTo_same (t : Term) (target : Ty) :
    SameTyped r (t.convertTo target n) (t.convertTo target n') := by
  have herror := congrArg (TypeError.invalidConversion t.ty target) hn
  simp only [Term.convertTo]
  split
  · exact .refl _
  split
  · exact .refl _
  split
  · exact .refl _
  split
  · exact .refl _
  · exact .error herror

theorem unary_same (op : UnaryOperator) (operand : Term) :
    SameTyped r (unary op operand n) (unary op operand n') := by
  simp only [unary]
  split
  · exact .refl _
  · exact .error (congrArg (TypeError.invalidOperand op.symbol operand.ty) hn)

theorem incompatible_same (op : BinaryOperator) (left right : Ty) :
    r.typeError (incompatible op left right n') = r.typeError (incompatible op left right n) :=
  congrArg (TypeError.incompatibleOperands op.symbol left right) hn

theorem arithmetic_same (op : BinaryOperator) (left right : Term) (lifted : Bool) :
    SameTyped r (arithmetic op left right lifted n) (arithmetic op left right lifted n') := by
  simp only [arithmetic]
  split
  · exact .error (incompatible_same hn op _ _)
  split
  · exact .refl _
  · exact .error (incompatible_same hn op _ _)

theorem comparison_same (op : BinaryOperator) (left right : Term) (target? : Option Ty)
    (lifted : Bool) :
    SameTyped r (comparison op left right target? lifted n)
      (comparison op left right target? lifted n') := by
  simp only [comparison]
  split
  · exact .error (incompatible_same hn op _ _)
  split
  · exact .refl _
  · exact .error (incompatible_same hn op _ _)

theorem nullTest_same (op : BinaryOperator) (null other : Term) :
    SameTyped r (nullTest op null other n) (nullTest op null other n') := by
  simp only [nullTest]
  split
  · exact .refl _
  · exact .error (incompatible_same hn op _ _)

theorem equality_same (op : BinaryOperator) (left right : Term) :
    SameTyped r (equality op left right n) (equality op left right n') := by
  simp only [equality]
  split
  · exact nullTest_same hn op left right
  split
  · exact nullTest_same hn op right left
  · exact comparison_same hn op left right _ _

theorem additive_same (op : BinaryOperator) (left right : Term) (lifted : Bool) :
    SameTyped r (additive op left right lifted n) (additive op left right lifted n') := by
  simp only [additive]
  split
  · split
    · exact .refl _
    · exact .error (incompatible_same hn op _ _)
  · exact arithmetic_same hn op left right lifted

theorem binary_same (op : BinaryOperator) (left right : Term) :
    SameTyped r (binary op left right n) (binary op left right n') := by
  cases op with
  | and | or =>
      simp only [binary]
      split
      · exact .refl _
      · exact .error (incompatible_same hn _ _ _)
  | equal | notEqual => exact equality_same hn _ left right
  | lessThan | greaterThan | lessEqual | greaterEqual => exact comparison_same hn _ left right _ _
  | add =>
      simp only [binary]
      split
      · exact .refl _
      · exact additive_same hn _ left right _
  | _ => exact additive_same hn _ left right _

theorem coalesce_same (left right : Term) :
    SameTyped r (coalesce left right n) (coalesce left right n') := by
  simp only [coalesce]
  split
  · exact .refl _
  split
  · exact .error (congrArg (TypeError.notNullable left.ty) hn)
  split
  · exact .refl _
  · exact .refl _
  split
  · split
    · exact .refl _
    · exact .error (congrArg (TypeError.typeMismatch _ _) hn)
  · exact .error (congrArg (TypeError.typeMismatch _ _) hn)

theorem unify_same (whenTrue whenFalse : Term) :
    SameTyped r (unify whenTrue whenFalse n) (unify whenTrue whenFalse n') := by
  simp only [unify]
  split
  · exact .refl _
  · exact .refl _
  split
  · exact .error (congrArg (TypeError.typeMismatch _ _) hn)
  split
  · exact .refl _
  · exact .error (congrArg (TypeError.typeMismatch _ _) hn)

theorem coerceAll_same (params : List Ty) (args : List Term) :
    SameTyped r (Overload.coerceAll n params args) (Overload.coerceAll n' params args) := by
  induction params generalizing args with
  | nil => exact .refl _
  | cons param params ih =>
      cases args with
      | nil => exact .refl _
      | cons arg args =>
          simp only [Overload.coerceAll]
          split
          · exact (ih args).map fun _ => rfl
          · exact .error (congrArg (TypeError.typeMismatch _ _) hn)

theorem checkPattern_same (b : Builtin) (args : List Term) :
    SameTyped r (checkPattern b args n) (checkPattern b args n') := by
  unfold checkPattern
  split
  · split
    · exact .error (congrArg (TypeError.invalidPattern _) hn)
    · exact .refl _
  · exact .refl _

theorem bindIt_same (scopes : List Scope) : SameTyped r (bindIt n scopes) (bindIt n' scopes) := by
  unfold bindIt
  split
  · exact .refl _
  · exact .error (congrArg (TypeError.unknownIdentifier _) hn)

theorem bindArray_same (elements : List Term) :
    SameTyped r (bindArray elements n) (bindArray elements n') := by
  cases elements with
  | nil => exact .error (congrArg TypeError.cannotInferElementType hn)
  | cons first others =>
      simp only [bindArray]
      split
      · exact .error (congrArg TypeError.cannotInferElementType hn)
      · refine Tracks.bind (mapM_same (List.forall₂_same.2 fun item _ => ?_)) fun _ => .refl _
        split
        · exact .refl _
        · exact .error (congrArg (TypeError.typeMismatch _ _) hn)

end Places

/-! ### Names -/

theorem bindName_relabel (id : Ident) :
    SameTyped r (bindName catalog id scopes) (bindName catalog (r.ident id) scopes) := by
  unfold bindName
  rw [r.key_ident, Relabelling.ident, r.lookup_name]
  cases parameter? id.key scopes with
  | some found => exact .refl _
  | none =>
      cases catalog.lookup id.name with
      | some s => exact .error (by simp [Relabelling.typeError, r.name_name, r.offset_offset])
      | none => exact .error (by simp [Relabelling.typeError, r.name_name, r.offset_offset])

theorem symbol?_relabel (r : Relabelling) (e : Expr) :
    symbol? catalog scopes (r.expr e) = symbol? catalog scopes e := by
  cases e with
  | identifier id =>
      show (if (parameter? (r.ident id).key scopes).isSome then none
        else catalog.lookup (r.name id.name)) = _
      rw [r.key_ident, r.lookup_name]
      rfl
  | _ => rfl

theorem conversionTarget_relabel (id : Ident) :
    SameTyped r (conversionTarget catalog id) (conversionTarget catalog (r.ident id)) := by
  unfold conversionTarget
  rw [Relabelling.ident, r.lookup_name]
  cases catalog.lookup id.name with
  | none => exact .error (by simp [Relabelling.typeError, r.name_name, r.offset_offset])
  | some s =>
      simp only
      cases s.target? with
      | some t => exact .refl _
      | none => exact .error (by simp [Relabelling.typeError, r.name_name, r.offset_offset])

theorem unknownMember_relabel (type : String) (name : Ident) :
    r.typeError (unknownMember type (r.ident name)) = r.typeError (unknownMember type name) := by
  simp [unknownMember, Relabelling.typeError, Relabelling.ident, r.name_name, r.offset_offset]

theorem bindConstant_relabel (s : LibrarySymbol) (name : Ident) :
    SameTyped r (bindConstant s name) (bindConstant s (r.ident name)) := by
  have hmember : s.member? (r.ident name).name = s.member? name.name :=
    r.find?_name s.members name.name
  unfold bindConstant
  rw [hmember]
  cases s.member? name.name with
  | none => exact .error (unknownMember_relabel _ _)
  | some m =>
      cases m with
      | constant _ ty value => exact .refl _
      | method method _ =>
          exact .error (congrArg (TypeError.methodWithoutCall method) (r.offset_offset _))
      | property _ _ _ => exact .error (unknownMember_relabel _ _)

theorem method_relabel (members : List Member) (type : String) (name : Ident) :
    SameTyped r (method members type name) (method members type (r.ident name)) := by
  have hnot : r.typeError (.notCallable (r.ident name).offset) =
      r.typeError (.notCallable name.offset) :=
    congrArg TypeError.notCallable (r.offset_offset _)
  have hmember : Member.find? members (r.ident name).name = Member.find? members name.name :=
    r.find?_name members name.name
  unfold method
  rw [hmember]
  cases Member.find? members name.name with
  | none => exact .error (unknownMember_relabel _ _)
  | some m =>
      cases m with
      | method _ overloads => exact .refl _
      | constant _ _ _ => exact .error hnot
      | property _ _ _ => exact .error hnot

theorem property?_relabel (r : Relabelling) (receiver : Term) (lookup : Ty) (name : Ident)
    (conditional : Bool) :
    Option.Rel (SameTyped r) (property? receiver lookup name conditional)
      (property? receiver lookup (r.ident name) conditional) := by
  have hindex : ∀ fields, Ty.fieldIndex? fields (r.ident name).name =
      Ty.fieldIndex? fields name.name := fun fields => r.fieldIndex?_name fields name.name
  have hmember : ∀ members, Member.find? members (r.ident name).name =
      Member.find? members name.name := fun members => r.find?_name members name.name
  unfold property?
  simp only [hindex, hmember]
  split
  · exact .some (.refl _)
  · split
    · exact .some (.refl _)
    · exact .some (.refl _)
    · exact .some (.error (congrArg (TypeError.methodWithoutCall _) (r.offset_offset _)))
    · exact .none

theorem bindProperty_relabel (receiver : Term) (name : Ident) (np : Bool) :
    SameTyped r (bindProperty receiver name np) (bindProperty receiver (r.ident name) np) := by
  have hvalue : Option.Rel (SameTyped r)
      (if isConditional np receiver.ty then property? receiver receiver.ty.underlying name true
        else none)
      (if isConditional np receiver.ty then
        property? receiver receiver.ty.underlying (r.ident name) true else none) := by
    split
    · exact property?_relabel r receiver _ name true
    · exact .none
  have hself := property?_relabel r receiver receiver.ty name false
  unfold bindProperty
  dsimp only
  generalize (if isConditional np receiver.ty then
      property? receiver receiver.ty.underlying name true else none) = o at hvalue ⊢
  generalize (if isConditional np receiver.ty then
      property? receiver receiver.ty.underlying (r.ident name) true else none) = o' at hvalue ⊢
  generalize property? receiver receiver.ty name false = p at hself ⊢
  generalize property? receiver receiver.ty (r.ident name) false = p' at hself ⊢
  cases hvalue with
  | some h => exact h
  | none =>
      cases hself with
      | some h => exact h
      | none => exact .error (unknownMember_relabel _ _)

/-! ### Arguments -/

/-- Arguments that are typed alike in all scopes. -/
structure SameArgument (r : Relabelling) (a a' : Argument) : Prop where
  offset : r.offset a'.offset = r.offset a.offset
  value : ∀ scopes, SameTyped r (a.value scopes) (a'.value scopes)
  body : ∀ item scopes, SameTyped r (a.body item scopes) (a'.body item scopes)

variable {args args' : List Argument} (hargs : List.Forall₂ (SameArgument r) args args')
include hargs

theorem values_same (scopes : List Scope) :
    SameTyped r (values args scopes) (values args' scopes) :=
  mapM_same (hargs.imp fun _ _ h => h.value scopes)

/-- An error that tells the number of the arguments. -/
theorem wrongArity_same (expected : List Nat) {name name' : String} {n n' : Nat}
    (hname : r.name name' = r.name name) (hn : r.offset n' = r.offset n) :
    SameTyped r (.error (.wrongArity name expected args.length n) : Typed α)
      (.error (.wrongArity name' expected args'.length n')) := by
  refine .error ?_
  simp only [Relabelling.typeError, hname, hn, hargs.length_eq]

/-- The one argument of a call is used alike, and another number of arguments is refused alike. -/
theorem oneArgument_bind_same (name : Ident) {f f' : Argument → Typed α}
    (hf : ∀ a a', SameArgument r a a' → SameTyped r (f a) (f' a')) :
    SameTyped r (Query.oneArgument name args >>= f)
      (Query.oneArgument (r.ident name) args' >>= f') := by
  have harity := wrongArity_same hargs (α := α) [1] (r.name_name name.name)
    (r.offset_offset name.offset)
  cases hargs with
  | nil => exact harity
  | cons h hrest =>
      cases hrest with
      | nil => exact hf _ _ h
      | cons _ _ => exact harity

theorem noArgument_bind_same (name : Ident) {o o' : Typed α} (ho : SameTyped r o o') :
    SameTyped r (Query.noArgument name args >>= fun _ => o)
      (Query.noArgument (r.ident name) args' >>= fun _ => o') := by
  have harity := wrongArity_same hargs (α := α) [0] (r.name_name name.name)
    (r.offset_offset name.offset)
  cases hargs with
  | nil => exact ho
  | cons _ _ => exact harity

theorem optionalArgument_bind_same (name : Ident) {f f' : Option Argument → Typed α}
    (hf : ∀ a a', Option.Rel (SameArgument r) a a' → SameTyped r (f a) (f' a')) :
    SameTyped r (Query.optionalArgument name args >>= f)
      (Query.optionalArgument (r.ident name) args' >>= f') := by
  have harity := wrongArity_same hargs (α := α) [0, 1] (r.name_name name.name)
    (r.offset_offset name.offset)
  cases hargs with
  | nil => exact hf none none .none
  | cons h hrest =>
      cases hrest with
      | nil => exact hf _ _ (.some h)
      | cons _ _ => exact harity

omit hargs

/-! ### Queries -/

namespace Query

variable {arg arg' : Argument} {arg? arg'? : Option Argument} (scopes : List Scope) (item : Ty)

theorem predicate_same (h : SameArgument r arg arg') :
    SameTyped r (predicate scopes item arg) (predicate scopes item arg') := by
  apply (h.body item scopes).bind
  intro body
  simp only [id]
  split
  · exact .refl _
  · exact .error (congrArg (TypeError.typeMismatch _ _) h.offset)

theorem optionalPredicate_same (h : Option.Rel (SameArgument r) arg? arg'?) :
    SameTyped r (optionalPredicate scopes item arg?) (optionalPredicate scopes item arg'?) := by
  cases h with
  | none => exact .refl _
  | some h => exact (predicate_same scopes item h).map fun _ => rfl

theorem selector_same (h : Option.Rel (SameArgument r) arg? arg'?) :
    SameTyped r (selector scopes item arg?) (selector scopes item arg'?) := by
  cases h with
  | none => exact .refl _
  | some h => exact h.body item scopes

theorem key_same (h : Option.Rel (SameArgument r) arg? arg'?) (name : Ident) (op : QueryOperator) :
    SameTyped r (key scopes item arg? name op) (key scopes item arg'? (r.ident name) op) := by
  apply (selector_same scopes item h).bind
  intro body
  simp only [id]
  split
  · exact .refl _
  · exact .error (congrArg (TypeError.invalidOperand _ _) (r.offset_offset _))

theorem operand_same (target : Ty) (h : SameArgument r arg arg') :
    SameTyped r (operand scopes target arg) (operand scopes target arg') := by
  apply (h.value scopes).bind
  intro value
  simp only [id]
  split
  · exact .refl _
  · exact .error (congrArg (TypeError.typeMismatch _ _) h.offset)

theorem addend_same (h : Option.Rel (SameArgument r) arg? arg'?) (name : Ident)
    (op : QueryOperator) :
    SameTyped r (addend scopes item arg? name op) (addend scopes item arg'? (r.ident name) op) := by
  apply (selector_same scopes item h).bind
  intro body
  simp only [id]
  split
  · exact .error (congrArg (TypeError.invalidOperand _ _) (r.offset_offset _))
  split
  · exact .refl _
  · exact .error (congrArg (TypeError.typeMismatch _ _) (r.offset_offset _))

theorem plan_same (hargs : List.Forall₂ (SameArgument r) args args') (op : QueryOperator)
    (name : Ident) :
    SameTyped r (plan scopes item op name args) (plan scopes item op (r.ident name) args') := by
  -- operators with a function of items, which may be left out for some of them
  have hone : ∀ {f f' : Argument → Typed Plan},
      (∀ a a', SameArgument r a a' → SameTyped r (f a) (f' a')) →
      SameTyped r (oneArgument name args >>= f) (oneArgument (r.ident name) args' >>= f') :=
    fun hf => oneArgument_bind_same hargs name hf
  have hoptional : ∀ {f f' : Option Argument → Typed Plan},
      (∀ a a', Option.Rel (SameArgument r) a a' → SameTyped r (f a) (f' a')) →
      SameTyped r (optionalArgument name args >>= f) (optionalArgument (r.ident name) args' >>= f') :=
    fun hf => optionalArgument_bind_same hargs name hf
  cases op with
  | select =>
      apply hone
      intro a a' h
      apply (h.body item scopes).bind
      intro body
      exact .refl _
  | filter | all =>
      apply hone
      intro a a' h
      apply (predicate_same scopes item h).bind
      intro body
      exact .refl _
  | orderBy | orderByDescending =>
      apply hone
      intro a a' h
      apply (key_same scopes item (.some h) name _).bind
      intro body
      exact .refl _
  | toArray | distinct | reverse => exact noArgument_bind_same hargs name (.refl _)
  | count | any | first | firstOrDefault | last | lastOrDefault =>
      apply hoptional
      intro a a' h
      apply (optionalPredicate_same scopes item h).bind
      intro body
      exact .refl _
  | sum | average =>
      apply hoptional
      intro a a' h
      apply (addend_same scopes item h name _).bind
      intro found
      exact .refl _
  | min | max =>
      apply hoptional
      intro a a' h
      apply (key_same scopes item h name _).bind
      intro body
      exact .refl _
  | contains | take | skip =>
      apply hone
      intro a a' h
      apply (operand_same scopes _ h).bind
      intro value
      exact .refl _

end Query

theorem query_same (hargs : List.Forall₂ (SameArgument r) args args') (source : Term) (item : Ty)
    (op : QueryOperator) (name : Ident) (conditional : Bool) (scopes : List Scope) :
    SameTyped r (query source item op name args conditional scopes)
      (query source item op (r.ident name) args' conditional scopes) := by
  apply (Query.plan_same scopes item hargs op name).bind
  intro p
  exact .refl _

/-! ### Calls -/

theorem resolve_relabel (overloads : List Signature) (args : List Term) (name : Ident) :
    SameTyped r (resolve overloads args name) (resolve overloads args (r.ident name)) := by
  unfold resolve
  simp only [Relabelling.ident]
  split
  · exact .error (by simp [Relabelling.typeError, r.name_name, r.offset_offset])
  · split
    · exact .error (by simp [Relabelling.typeError, r.name_name, r.offset_offset])
    · split
      · exact (coerceAll_same (r.offset_offset name.offset) _ args).map fun _ => rfl
      · exact .error (by simp [Relabelling.typeError, r.name_name, r.offset_offset])

theorem overloadedCall_relabel (overloads : List Signature) (args : List Term) (name : Ident) :
    SameTyped r (overloadedCall overloads args name)
      (overloadedCall overloads args (r.ident name)) := by
  apply (resolve_relabel overloads args name).bind
  rintro ⟨s, args⟩
  apply (checkPattern_same (r.offset_offset name.offset) s.builtin args).bind
  intro _
  exact .refl _

section Calls

variable (hargs : List.Forall₂ (SameArgument r) args args')
include hargs

theorem bindStaticCall_same (s : LibrarySymbol) (name : Ident) (scopes : List Scope) :
    SameTyped r (bindStaticCall s name args scopes)
      (bindStaticCall s (r.ident name) args' scopes) := by
  apply (method_relabel s.members s.name name).bind
  intro overloads
  apply (values_same hargs scopes).bind
  intro ts
  apply (overloadedCall_relabel overloads ts name).bind
  rintro ⟨signature, ts⟩
  exact .refl _

theorem bindInstanceCall_same (receiver : Term) (name : Ident) (np : Bool) (scopes : List Scope) :
    SameTyped r (bindInstanceCall receiver name args np scopes)
      (bindInstanceCall receiver (r.ident name) args' np scopes) := by
  unfold bindInstanceCall
  have hfind : ∀ members, Member.find? members (r.ident name).name =
      Member.find? members name.name :=
    fun members => r.find?_name members name.name
  simp only [hfind]
  apply (method_relabel _ _ name).bind
  intro overloads
  apply (values_same hargs scopes).bind
  intro ts
  apply (overloadedCall_relabel overloads ts name).bind
  rintro ⟨s, ts⟩
  exact .refl _

theorem bindMethodCall_same (receiver : Term) (name : Ident) (np : Bool) (scopes : List Scope) :
    SameTyped r (bindMethodCall receiver name args np scopes)
      (bindMethodCall receiver (r.ident name) args' np scopes) := by
  have hname : QueryOperator.ofName? (r.ident name).name = QueryOperator.ofName? name.name :=
    r.ofName?_name name.name
  unfold bindMethodCall
  simp only [hname]
  split
  · exact query_same hargs _ _ _ name _ scopes
  · exact bindInstanceCall_same hargs receiver name np scopes

theorem bindIndex_same (receiver : Term) (offset : Nat) (np : Bool) (scopes : List Scope) :
    SameTyped r (bindIndex receiver args offset np scopes)
      (bindIndex receiver args' (r.offset offset) np scopes) := by
  have hoffset := r.offset_offset offset
  unfold bindIndex
  simp only
  cases indexed? (memberType (isConditional np receiver.ty) receiver.ty) with
  | none => exact .error (congrArg (TypeError.notIndexable _) hoffset)
  | some item =>
      have harity := wrongArity_same hargs (α := Term) [1] (rfl : r.name "indexer" = _) hoffset
      cases hargs with
      | nil => exact harity
      | cons h hrest =>
          cases hrest with
          | nil =>
              apply (h.value scopes).bind
              intro index
              simp only [id]
              split
              · exact .refl _
              · exact .error (congrArg (TypeError.typeMismatch _ _) hoffset)
          | cons _ _ => exact harity

theorem bindConversion_same (target : Ty) (name : Ident) (scopes : List Scope) :
    SameTyped r (bindConversion target name args scopes)
      (bindConversion target (r.ident name) args' scopes) := by
  have harity := wrongArity_same hargs (α := Term) [1] (r.name_name name.name)
    (r.offset_offset name.offset)
  cases hargs with
  | nil => exact harity
  | cons h hrest =>
      cases hrest with
      | nil =>
          apply (h.value scopes).bind
          intro operand
          exact convertTo_same (r.offset_offset name.offset) operand target
      | cons _ _ => exact harity

theorem bindNullableConversion_same (name : Ident) (scopes : List Scope) :
    SameTyped r (bindNullableConversion catalog name args scopes)
      (bindNullableConversion catalog (r.ident name) args' scopes) := by
  apply (conversionTarget_relabel name).bind
  intro t
  simp only [id]
  split
  · exact bindConversion_same hargs t.asNullable name scopes
  · exact .error (congrArg (TypeError.notNullable t) (r.offset_offset name.offset))

end Calls

/-! ### Expressions -/

theorem offset_expr (r : Relabelling) (e : Expr) :
    r.offset (r.expr e).offset = r.offset e.offset := by
  cases e with
  | literal | null => rfl
  | _ => exact r.offset_offset _

/-- Expressions that are typed alike are arguments that are typed alike. -/
theorem sameArgument_of_bind {e e' : Expr} (hoffset : r.offset e'.offset = r.offset e.offset)
    (h : ∀ np scopes, SameTyped r (bind catalog e np scopes) (bind catalog e' np scopes)) :
    SameArgument r
      ⟨e.offset, fun scopes => bind catalog e false scopes,
        fun item scopes => bind catalog e false (⟨itKey, item⟩ :: scopes)⟩
      ⟨e'.offset, fun scopes => bind catalog e' false scopes,
        fun item scopes => bind catalog e' false (⟨itKey, item⟩ :: scopes)⟩ where
  offset := hoffset
  value := h false
  body item scopes := h false (⟨itKey, item⟩ :: scopes)

/-- A lambda is no value, and as a function of an item it is typed as its body is. -/
theorem sameArgument_of_lambda {param : Ident} {body body' : Expr}
    (h : ∀ scopes, SameTyped r (bind catalog body false scopes) (bind catalog body' false scopes)) :
    SameArgument r
      ⟨param.offset, fun _ => .error (.misplacedLambda param.offset),
        fun item scopes => bind catalog body false (⟨param.key, item⟩ :: scopes)⟩
      ⟨(r.ident param).offset, fun _ => .error (.misplacedLambda (r.ident param).offset),
        fun item scopes => bind catalog body' false (⟨(r.ident param).key, item⟩ :: scopes)⟩ where
  offset := r.offset_offset param.offset
  value _ := .error (congrArg TypeError.misplacedLambda (r.offset_offset param.offset))
  body item scopes := by
    rw [r.key_ident]
    exact h _

/-- Where the names of members have to be kept, the relabelling keeps all names. -/
def KeepsMembers (r : Relabelling) (hasRecord : Bool) : Prop :=
  hasRecord = false ∨ ∀ s, r.name s = s

theorem KeepsMembers.of_or {a b : Bool} (h : KeepsMembers r (a || b)) :
    KeepsMembers r a ∧ KeepsMembers r b :=
  ⟨h.imp_left fun h => (Bool.or_eq_false_iff.1 h).1,
    h.imp_left fun h => (Bool.or_eq_false_iff.1 h).2⟩

mutual

theorem bind_relabel (r : Relabelling) (catalog : Catalog) : (e : Expr) →
    KeepsMembers r e.hasRecord → ∀ (np : Bool) (scopes : List Scope),
      SameTyped r (bind catalog e np scopes) (bind catalog (r.expr e) np scopes)
  | .literal _, _, _, _ => .refl _
  | .null, _, _, _ => .refl _
  | .it offset, _, _, scopes => bindIt_same (r.offset_offset offset) scopes
  | .identifier id, _, _, _ => bindName_relabel id
  | .lambda param _, _, _, _ =>
    .error (congrArg TypeError.misplacedLambda (r.offset_offset param.offset))
  | .member object name, h, np, scopes => by
    show SameTyped r _ (bind catalog (.member (r.expr object) (r.ident name)) np scopes)
    rw [bind, bind, symbol?_relabel]
    cases symbol? catalog scopes object with
    | some s => exact bindConstant_relabel s name
    | none =>
        apply (bind_relabel r catalog object h np scopes).bind
        intro receiver
        exact bindProperty_relabel receiver name np
  | .index object args offset, h, np, scopes => by
    obtain ⟨hobject, hargs⟩ := h.of_or
    apply (bind_relabel r catalog object hobject np scopes).bind
    intro receiver
    exact bindIndex_same (arguments_relabel r catalog args hargs) receiver offset np scopes
  | .call callee args offset, h, np, scopes => by
    have hnot : SameTyped r (.error (.notCallable offset) : Typed Term)
        (.error (.notCallable (r.offset offset))) :=
      .error (congrArg TypeError.notCallable (r.offset_offset offset))
    obtain ⟨hcallee, hargs⟩ := h.of_or
    cases callee with
    | identifier id =>
        show SameTyped r _ (bind catalog
          (.call (.identifier (r.ident id)) (Expr.mapAll _ _ args) (r.offset offset)) np scopes)
        rw [bind, bind, r.key_ident]
        split
        · exact hnot
        · apply (conversionTarget_relabel id).bind
          intro target
          exact bindConversion_same (arguments_relabel r catalog args hargs) target id scopes
    | member object name =>
        show SameTyped r _ (bind catalog
          (.call (.member (r.expr object) (r.ident name)) (Expr.mapAll _ _ args) (r.offset offset))
          np scopes)
        rw [bind, bind, symbol?_relabel]
        cases symbol? catalog scopes object with
        | some s => exact bindStaticCall_same (arguments_relabel r catalog args hargs) s name scopes
        | none =>
            apply (bind_relabel r catalog object hcallee np scopes).bind
            intro receiver
            exact bindMethodCall_same (arguments_relabel r catalog args hargs) receiver name np
              scopes
    | _ => exact hnot
  | .nullableConversion target args, h, _, scopes =>
    bindNullableConversion_same (arguments_relabel r catalog args h) target scopes
  | .unary op operand offset, h, _, scopes => by
    apply (bind_relabel r catalog operand h false scopes).bind
    intro t
    exact unary_same (r.offset_offset offset) op t
  | .binary op left right offset, h, _, scopes => by
    obtain ⟨hleft, hright⟩ := h.of_or
    apply (bind_relabel r catalog left hleft false scopes).bind
    intro l
    apply (bind_relabel r catalog right hright false scopes).bind
    intro t
    cases op with
    | coalesce => exact coalesce_same (r.offset_offset offset) l t
    | _ => exact binary_same (r.offset_offset offset) _ l t
  | .conditional c a b offset, h, _, scopes => by
    obtain ⟨hca, hb⟩ := h.of_or
    obtain ⟨hc, ha⟩ := hca.of_or
    apply (bind_relabel r catalog c hc false scopes).bind
    intro condition
    simp only [id]
    split
    · exact .error (congrArg (TypeError.typeMismatch _ _) (r.offset_offset offset))
    · apply (bind_relabel r catalog a ha false scopes).bind
      intro whenTrue
      apply (bind_relabel r catalog b hb false scopes).bind
      intro whenFalse
      apply (unify_same (r.offset_offset offset) whenTrue whenFalse).bind
      intro branches
      exact .refl _
  | .nullPropagation operand _, h, _, scopes => bind_relabel r catalog operand h true scopes
  | .array elements offset, h, _, scopes => by
    apply (values_same (arguments_relabel r catalog elements h) scopes).bind
    intro ts
    exact bindArray_same (r.offset_offset offset) ts
  | .record members _, h, _, scopes => by
    rcases h with h | hname
    · cases members with
      | nil => exact .refl _
      | cons _ _ => cases h
    · apply (bindMembers_relabel r catalog hname members [] scopes).bind
      intro found
      exact .refl _

theorem arguments_relabel (r : Relabelling) (catalog : Catalog) : (es : List Expr) →
    KeepsMembers r (Expr.anyHasRecord es) →
    List.Forall₂ (SameArgument r) (arguments catalog es)
      (arguments catalog (Expr.mapAll r.ident r.offset es))
  | [], _ => .nil
  | e :: es, h => by
    obtain ⟨he, hes⟩ := h.of_or
    cases e with
    | lambda param body =>
        exact .cons (sameArgument_of_lambda (bind_relabel r catalog body he false))
          (arguments_relabel r catalog es hes)
    | _ =>
        refine .cons ?_ (arguments_relabel r catalog es hes)
        exact sameArgument_of_bind (offset_expr r _) (bind_relabel r catalog _ he)

theorem bindMembers_relabel (r : Relabelling) (catalog : Catalog) (hname : ∀ s, r.name s = s) :
    (members : List (Ident × Expr)) → ∀ (given : List String) (scopes : List Scope),
      SameTyped r (bindMembers catalog members given scopes)
        (bindMembers catalog (Expr.mapMembers r.ident r.offset members) given scopes)
  | [], _, _ => .refl _
  | (name, e) :: members, given, scopes => by
    show SameTyped r _ (bindMembers catalog
      ((r.ident name, r.expr e) :: Expr.mapMembers r.ident r.offset members) given scopes)
    rw [bindMembers, bindMembers, r.key_ident]
    split
    · exact .error (by
        simp [Relabelling.typeError, Relabelling.ident, r.name_name, r.offset_offset])
    · apply (bind_relabel r catalog e (.inr hname) false scopes).bind
      intro value
      apply (bindMembers_relabel r catalog hname members _ scopes).bind
      rintro ⟨fields, values⟩
      simp only [Relabelling.ident, hname]
      exact .refl _

end

end Typing

end Elementwise
