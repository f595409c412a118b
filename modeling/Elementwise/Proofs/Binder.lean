import Elementwise.Proofs.Substitution.Binding
import Elementwise.Typing.Binder

/-!
A binder is after each expression what it was before.  Every step of typing restores the stack of
scopes, whether it fails or not, and has the outcome that typing without a stack has in the scopes
that are on it.
-/

namespace Elementwise

namespace Typing

namespace Scoped

variable {α β : Type} {scopes : List Scope}

/-! ### Steps -/

/-- On the stack the step has the outcome, and restores the stack. -/
def Restores (scopes : List Scope) (step : Scoped α) (o : Typed α) : Prop :=
  step.run scopes = (o, scopes)

namespace Restores

theorem pure (a : α) : Restores scopes (return a) (.ok a) :=
  rfl

theorem throw (e : TypeError) : Restores scopes (throw e : Scoped α) (.error e) :=
  rfl

/-- A step that does not look at the stack. -/
theorem lift (o : Typed α) : Restores scopes (liftM o) o :=
  rfl

theorem reads (f : List Scope → Typed α) : Restores scopes (reads f) (f scopes) :=
  rfl

theorem bind {step : Scoped α} {o : Typed α} {k : α → Scoped β} {g : α → Typed β}
    (h : Restores scopes step o) (hk : ∀ a, Restores scopes (k a) (g a)) :
    Restores scopes (step >>= k) (o >>= g) := by
  show (match step.run scopes with | (result, scopes) => ExceptT.bindCont k result scopes) = _
  rw [h]
  cases o with
  | ok a => exact hk a
  | error e => rfl

theorem map {step : Scoped α} {o : Typed α} {f : α → β} (h : Restores scopes step o) :
    Restores scopes (do return f (← step)) (o.map f) := by
  have hbind : o.map f = o >>= fun a => .ok (f a) := by cases o <;> rfl
  rw [hbind]
  exact h.bind fun a => .pure (f a)

/-- A step that begins with a look at the stack. -/
theorem get_bind {k : List Scope → Scoped α} {o : Typed α} (h : Restores scopes (k scopes) o) :
    Restores scopes (get >>= k) o :=
  h

/-- What is pushed is popped, also after an error. -/
theorem within {s : Scope} {step : Scoped α} {o : Typed α} (h : Restores (s :: scopes) step o) :
    Restores scopes (within s step) o := by
  show (match step.run (s :: scopes) with | (result, scopes) => (result, scopes.tail)) = _
  rw [h]
  rfl

end Restores

/-! ### Arguments -/

/-- An argument of which every typing restores the stack. -/
structure Argument.Restores (arg : Argument) (arg' : Typing.Argument) : Prop where
  offset : arg.offset = arg'.offset
  value : ∀ scopes, Scoped.Restores scopes arg.value (arg'.value scopes)
  body : ∀ item scopes, Scoped.Restores scopes (arg.body item) (arg'.body item scopes)

variable {args : List Argument} {args' : List Typing.Argument}
  (hargs : List.Forall₂ Argument.Restores args args')

section Arguments

include hargs

theorem values_restores : Restores scopes (values args) (Typing.values args' scopes) := by
  unfold values Typing.values
  induction hargs with
  | nil => exact .pure []
  | cons h _ ih =>
      rw [List.mapM_cons, List.mapM_cons]
      exact (h.value scopes).bind fun t => ih.bind fun ts => .pure (t :: ts)

namespace Query

variable (name : Ident)

theorem wrongArity_eq (expected : List Nat) :
    wrongArity name expected args = Typing.Query.wrongArity name expected args' := by
  rw [wrongArity, Typing.Query.wrongArity, hargs.length_eq]

theorem noArgument_bind {k : Unit → Scoped α} {g : Unit → Typed α}
    (hk : Restores scopes (k ()) (g ())) :
    Restores scopes (liftM (noArgument name args) >>= k)
      (Typing.Query.noArgument name args' >>= g) := by
  have harity := wrongArity_eq hargs name [0]
  cases hargs with
  | nil => exact hk
  | cons _ _ =>
      rw [noArgument, Typing.Query.noArgument, harity]
      · exact .throw _
      all_goals exact nofun

theorem oneArgument_bind {k : Argument → Scoped α} {g : Typing.Argument → Typed α}
    (hk : ∀ arg arg', arg.Restores arg' → Restores scopes (k arg) (g arg')) :
    Restores scopes (liftM (oneArgument name args) >>= k)
      (Typing.Query.oneArgument name args' >>= g) := by
  have harity := wrongArity_eq hargs name [1]
  cases hargs with
  | nil => exact .throw _
  | cons h hrest =>
      cases hrest with
      | nil => exact hk _ _ h
      | cons _ _ =>
          rw [oneArgument, Typing.Query.oneArgument, harity]
          · exact .throw _
          all_goals exact nofun

theorem optionalArgument_bind {k : Option Argument → Scoped α}
    {g : Option Typing.Argument → Typed α}
    (hk : ∀ arg? arg?', Option.Rel Argument.Restores arg? arg?' →
      Restores scopes (k arg?) (g arg?')) :
    Restores scopes (liftM (optionalArgument name args) >>= k)
      (Typing.Query.optionalArgument name args' >>= g) := by
  have harity := wrongArity_eq hargs name [0, 1]
  cases hargs with
  | nil => exact hk _ _ .none
  | cons h hrest =>
      cases hrest with
      | nil => exact hk _ _ (.some h)
      | cons _ _ =>
          rw [optionalArgument, Typing.Query.optionalArgument, harity]
          · exact .throw _
          all_goals exact nofun

end Query

end Arguments

/-! ### Queries -/

namespace Query

variable {arg : Argument} {arg' : Typing.Argument} {arg? : Option Argument}
  {arg?' : Option Typing.Argument} (item : Ty) (name : Ident) (op : QueryOperator)

theorem predicate_restores (h : arg.Restores arg') :
    Restores scopes (predicate item arg) (Typing.Query.predicate scopes item arg') := by
  refine (h.body item scopes).bind fun body => ?_
  rw [h.offset]
  split
  · exact .pure body
  · exact .throw _

theorem optionalPredicate_restores (h : Option.Rel Argument.Restores arg? arg?') :
    Restores scopes (optionalPredicate item arg?)
      (Typing.Query.optionalPredicate scopes item arg?') := by
  cases h with
  | none => exact .pure none
  | some h => exact (predicate_restores item h).map

theorem selector_restores (h : Option.Rel Argument.Restores arg? arg?') :
    Restores scopes (selector item arg?) (Typing.Query.selector scopes item arg?') := by
  cases h with
  | none => exact .pure _
  | some h => exact h.body item scopes

theorem key_restores (h : Option.Rel Argument.Restores arg? arg?') :
    Restores scopes (key item arg? name op) (Typing.Query.key scopes item arg?' name op) := by
  refine (selector_restores item h).bind fun body => ?_
  split
  · exact .pure body
  · exact .throw _

theorem operand_restores (target : Ty) (h : arg.Restores arg') :
    Restores scopes (operand target arg) (Typing.Query.operand scopes target arg') := by
  refine (h.value scopes).bind fun value => ?_
  rw [h.offset]
  cases value.coerceTo? target with
  | some value => exact .pure value
  | none => exact .throw _

theorem addend_restores (h : Option.Rel Argument.Restores arg? arg?') :
    Restores scopes (addend item arg? name op)
      (Typing.Query.addend scopes item arg?' name op) := by
  refine (selector_restores item h).bind fun body => ?_
  cases Typing.Query.aggregateKind? body.ty with
  | none => exact .throw _
  | some k =>
      dsimp only
      cases body.coerceTo? (.numeric k) with
      | some body => exact .pure (k, body)
      | none => exact .throw _

theorem plan_restores (hargs : List.Forall₂ Argument.Restores args args') :
    Restores scopes (plan item op name args) (Typing.Query.plan scopes item op name args') := by
  cases op with
  | select =>
      exact oneArgument_bind hargs name fun _ _ h => (h.body item scopes).bind fun _ => .pure _
  | filter | all =>
      exact oneArgument_bind hargs name fun _ _ h =>
        (predicate_restores item h).bind fun _ => .pure _
  | orderBy | orderByDescending =>
      exact oneArgument_bind hargs name fun _ _ h =>
        (key_restores item name _ (.some h)).bind fun _ => .pure _
  | toArray | distinct | reverse => exact noArgument_bind hargs name (.pure _)
  | count | any | first | firstOrDefault | last | lastOrDefault =>
      exact optionalArgument_bind hargs name fun _ _ h =>
        (optionalPredicate_restores item h).bind fun _ => .pure _
  | sum | average =>
      exact optionalArgument_bind hargs name fun _ _ h =>
        (addend_restores item name _ h).bind fun _ => .pure _
  | min | max =>
      exact optionalArgument_bind hargs name fun _ _ h =>
        (key_restores item name _ h).bind fun _ => .pure _
  | contains | take | skip =>
      exact oneArgument_bind hargs name fun _ _ h =>
        (operand_restores _ h).bind fun _ => .pure _

end Query

theorem query_restores (source : Term) (item : Ty) (op : QueryOperator) (name : Ident)
    (conditional : Bool) (hargs : List.Forall₂ Argument.Restores args args') :
    Restores scopes (query source item op name args conditional)
      (Typing.query source item op name args' conditional scopes) :=
  (Query.plan_restores item name op hargs).bind fun _ => .pure _

/-! ### Calls -/

section Calls

variable (receiver : Term) (name : Ident)
include hargs

theorem bindStaticCall_restores (s : LibrarySymbol) :
    Restores scopes (bindStaticCall s name args)
      (Typing.bindStaticCall s name args' scopes) := by
  refine (Restores.lift (method s.members s.name name)).bind fun overloads => ?_
  refine (values_restores hargs).bind fun ts => ?_
  exact (Restores.lift (overloadedCall overloads ts name)).bind fun _ => .pure _

theorem bindInstanceCall_restores (np : Bool) :
    Restores scopes (bindInstanceCall receiver name args np)
      (Typing.bindInstanceCall receiver name args' np scopes) := by
  refine (Restores.lift (method _ receiver.ty.name name)).bind fun overloads => ?_
  refine (values_restores hargs).bind fun ts => ?_
  exact (Restores.lift (overloadedCall overloads ts name)).bind fun _ => .pure _

theorem bindMethodCall_restores (np : Bool) :
    Restores scopes (bindMethodCall receiver name args np)
      (Typing.bindMethodCall receiver name args' np scopes) := by
  unfold bindMethodCall Typing.bindMethodCall
  dsimp only
  cases (memberType (isConditional np receiver.ty) receiver.ty).element? with
  | none => exact bindInstanceCall_restores hargs receiver name np
  | some item =>
      cases QueryOperator.ofName? name.name with
      | none => exact bindInstanceCall_restores hargs receiver name np
      | some op => exact query_restores receiver item op name _ hargs

theorem bindIndex_restores (offset : Nat) (np : Bool) :
    Restores scopes (bindIndex receiver args offset np)
      (Typing.bindIndex receiver args' offset np scopes) := by
  have hlength := hargs.length_eq
  unfold bindIndex Typing.bindIndex
  dsimp only
  cases indexed? (memberType (isConditional np receiver.ty) receiver.ty) with
  | none => exact .throw _
  | some item =>
      cases hargs with
      | nil => exact .throw _
      | cons h hrest =>
          cases hrest with
          | nil =>
              refine (h.value scopes).bind fun index => ?_
              cases index.coerceTo? .int32 with
              | some index => exact .pure _
              | none => exact .throw _
          | cons _ _ =>
              dsimp only
              rw [hlength]
              exact .throw _

theorem bindConversion_restores (target : Ty) :
    Restores scopes (bindConversion target name args)
      (Typing.bindConversion target name args' scopes) := by
  have hlength := hargs.length_eq
  unfold bindConversion Typing.bindConversion
  cases hargs with
  | nil => exact .throw _
  | cons h hrest =>
      cases hrest with
      | nil => exact (h.value scopes).bind fun t => .lift (t.convertTo target name.offset)
      | cons _ _ =>
          dsimp only
          rw [hlength]
          exact .throw _

theorem bindNullableConversion_restores (catalog : Catalog) :
    Restores scopes (bindNullableConversion catalog name args)
      (Typing.bindNullableConversion catalog name args' scopes) := by
  refine (Restores.lift (conversionTarget catalog name)).bind fun t => ?_
  split
  · exact bindConversion_restores hargs name t.asNullable
  · exact .throw _

end Calls

/-! ### Expressions -/

variable (catalog : Catalog)

theorem arguments_cons {e : Expr} (h : ∀ param body, e ≠ .lambda param body) (es : List Expr) :
    arguments catalog (e :: es) =
      { offset := e.offset
        value := bind catalog e false
        body := fun item => within ⟨itKey, item⟩ (bind catalog e false) } ::
        arguments catalog es := by
  rw [arguments]
  exact h

mutual

theorem bind_restores : (e : Expr) → (np : Bool) → (scopes : List Scope) →
    Restores scopes (bind catalog e np) (Typing.bind catalog e np scopes)
  | .literal l, _, scopes => by
      rw [bind, Typing.bind]
      exact .pure _
  | .null, _, scopes => by
      rw [bind, Typing.bind]
      exact .pure _
  | .it offset, _, scopes => by
      rw [bind, Typing.bind]
      exact .reads (bindIt offset)
  | .identifier id, _, scopes => by
      rw [bind, Typing.bind]
      exact .reads (bindName catalog id)
  | .member object name, np, scopes => by
      rw [bind, Typing.bind]
      refine .get_bind ?_
      cases symbol? catalog scopes object with
      | some s => exact .lift (bindConstant s name)
      | none =>
          exact (bind_restores object np scopes).bind fun t => .lift (bindProperty t name np)
  | .index object args offset, np, scopes => by
      rw [bind, Typing.bind]
      exact (bind_restores object np scopes).bind fun t =>
        bindIndex_restores (arguments_restores args) t offset np
  | .call callee args offset, np, scopes => by
      have hargs := arguments_restores args
      cases callee with
      | identifier id =>
          rw [bind, Typing.bind]
          refine .get_bind ?_
          split
          · exact .throw _
          · exact (Restores.lift (conversionTarget catalog id)).bind fun target =>
              bindConversion_restores hargs id target
      | member object name =>
          rw [bind, Typing.bind]
          refine .get_bind ?_
          cases symbol? catalog scopes object with
          | some s => exact bindStaticCall_restores hargs name s
          | none =>
              exact (bind_restores object np scopes).bind fun t =>
                bindMethodCall_restores hargs t name np
      | _ =>
          rw [bind, Typing.bind]
          · exact .throw _
          all_goals exact nofun
  | .nullableConversion target args, _, scopes => by
      rw [bind, Typing.bind]
      exact bindNullableConversion_restores (arguments_restores args) target catalog
  | .unary op operand offset, _, scopes => by
      rw [bind, Typing.bind]
      exact (bind_restores operand false scopes).bind fun t => .lift (unary op t offset)
  | .binary op left right offset, _, scopes => by
      rw [bind, Typing.bind]
      refine (bind_restores left false scopes).bind fun l => ?_
      refine (bind_restores right false scopes).bind fun r => ?_
      cases op with
      | coalesce => exact .lift (coalesce l r offset)
      | _ => exact .lift (binary _ l r offset)
  | .conditional condition whenTrue whenFalse offset, _, scopes => by
      rw [bind, Typing.bind]
      refine (bind_restores condition false scopes).bind fun c => ?_
      split
      · exact .throw _
      · refine (bind_restores whenTrue false scopes).bind fun t => ?_
        refine (bind_restores whenFalse false scopes).bind fun f => ?_
        exact (Restores.lift (unify t f offset)).bind fun _ => .pure _
  | .nullPropagation operand _, _, scopes => by
      rw [bind, Typing.bind]
      exact bind_restores operand true scopes
  | .array elements offset, _, scopes => by
      rw [bind, Typing.bind]
      exact (values_restores (arguments_restores elements)).bind fun ts =>
        .lift (bindArray ts offset)
  | .record members _, _, scopes => by
      rw [bind, Typing.bind]
      exact (bindMembers_restores members [] scopes).bind fun _ => .pure _
  | .lambda param _, _, scopes => by
      rw [bind, Typing.bind]
      exact .throw _

theorem arguments_restores : (args : List Expr) →
    List.Forall₂ Argument.Restores (arguments catalog args) (Typing.arguments catalog args)
  | [] => by
      rw [arguments, Typing.arguments]
      exact .nil
  | arg :: args => by
      rcases lambda_or arg with ⟨param, body, rfl⟩ | harg
      · rw [arguments, Typing.arguments]
        refine .cons ⟨rfl, fun scopes => .throw _, fun item scopes => ?_⟩ (arguments_restores args)
        exact .within (bind_restores body false (⟨param.key, item⟩ :: scopes))
      · rw [arguments_cons catalog harg, Typing.arguments_cons harg]
        refine .cons ⟨rfl, bind_restores arg false, fun item scopes => ?_⟩
          (arguments_restores args)
        exact .within (bind_restores arg false (⟨itKey, item⟩ :: scopes))

theorem bindMembers_restores : (members : List (Ident × Expr)) → (given : List String) →
    (scopes : List Scope) →
    Restores scopes (bindMembers catalog members given)
      (Typing.bindMembers catalog members given scopes)
  | [], _, scopes => by
      rw [bindMembers, Typing.bindMembers]
      exact .pure _
  | (name, e) :: members, given, scopes => by
      rw [bindMembers, Typing.bindMembers]
      split
      · exact .throw _
      · refine (bind_restores e false scopes).bind fun value => ?_
        exact (bindMembers_restores members _ scopes).bind fun _ => .pure _

end

end Scoped

/-! ### Binders -/

namespace Binder

variable (catalog : Catalog) (input : Ty)

/-- An expression is typed in the scopes of the binder, and the binder is as before. -/
theorem bind_eq (b : Binder) (e : Expr) :
    b.bind e = (Typing.bind b.catalog e false b.scopes, b) := by
  have hrun : (Scoped.bind b.catalog e false).run b.scopes = _ :=
    Scoped.bind_restores b.catalog e false b.scopes
  rw [bind, hrun]

theorem bindAll_eq (b : Binder) (es : List Expr) :
    b.bindAll es = (es.map fun e => Typing.bind b.catalog e false b.scopes, b) := by
  induction es with
  | nil => rfl
  | cons e es ih =>
      rw [bindAll, bind_eq]
      dsimp only
      rw [ih, List.map_cons]

/-- Whatever expressions a binder has typed or refused, each one has had the outcome that it has with
a new binder, and after each one the scopes are those of a new binder: the input under the name
`it`. -/
theorem bindAll_new (es : List Expr) :
    ((new catalog input).bindAll es).1 = es.map (fun e => ((new catalog input).bind e).1) ∧
      (∀ n, ((new catalog input).bindAll (es.take n)).2.scopes = [⟨itKey, input⟩]) ∧
      ∀ e, ((new catalog input).bind e).1 = bindInput catalog e input := by
  refine ⟨?_, fun n => ?_, fun e => ?_⟩
  · simp only [bindAll_eq, bind_eq]
  · rw [bindAll_eq]
    rfl
  · rw [bind_eq]
    rfl

/-- In `it.Select(x => y)` the error is met with two scopes on the stack. -/
example : (new .standard (.array .int32)).bind
    (.call (.member (.it 0) ⟨"Select", 3⟩) [.lambda ⟨"x", 10⟩ (.identifier ⟨"y", 15⟩)] 9) =
    (.error (.unknownIdentifier "y" 15), new .standard (.array .int32)) := by
  rfl

end Binder

end Typing

end Elementwise
