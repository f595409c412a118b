import Elementwise.Proofs.Soundness.Typing.Conversion

/-!
Queries over a typed source with typed arguments are typed.
-/

namespace Elementwise

namespace Typing

variable {Γ : List Ty}

/-- The types of the parameters in scope. -/
def types (scopes : List Scope) : List Ty :=
  scopes.map (·.ty)

/-- An argument that is typed in whatever scopes it is put. -/
structure Argument.IsTyped (arg : Argument) : Prop where
  value (scopes : List Scope) : Ensures (Term.Typed (types scopes)) (arg.value scopes)
  body (item : Ty) (scopes : List Scope) :
    Ensures (Term.Typed (item :: types scopes)) (arg.body item scopes)

namespace Query

variable {scopes : List Scope} {item : Ty} {name : Ident} {args : List Argument}

theorem oneArgument_typed (hargs : ∀ arg ∈ args, arg.IsTyped) :
    Ensures Argument.IsTyped (oneArgument name args) := by
  unfold oneArgument
  split
  · exact .ok (hargs _ (List.mem_singleton_self _))
  · exact .error

theorem optionalArgument_typed (hargs : ∀ arg ∈ args, arg.IsTyped) :
    Ensures (fun o => ∀ arg, o = some arg → arg.IsTyped) (optionalArgument name args) := by
  unfold optionalArgument
  split
  · exact .ok nofun
  · exact .ok fun arg h => Option.some.inj h ▸ hargs _ (List.mem_singleton_self _)
  · exact .error

/-- A typed function of items with the type given. -/
def IsBody (Γ : List Ty) (item : Ty) (body : Term) (t : Ty) : Prop :=
  body.Typed (item :: Γ) ∧ body.ty = t

theorem predicate_typed {arg : Argument} (harg : arg.IsTyped) :
    Ensures (IsBody (types scopes) item · .boolean) (predicate scopes item arg) := by
  refine (harg.body item scopes).bind fun body hbody => ?_
  split
  · exact .ok ⟨hbody, by assumption⟩
  · exact .error

theorem optionalPredicate_typed {arg? : Option Argument}
    (harg : ∀ arg, arg? = some arg → arg.IsTyped) :
    Ensures (fun o => (o = none ∨ o.map Term.ty = some .boolean) ∧
        ∀ body, o = some body → body.Typed (item :: types scopes))
      (optionalPredicate scopes item arg?) := by
  cases arg? with
  | none => exact .ok ⟨Or.inl rfl, nofun⟩
  | some arg =>
      refine (predicate_typed (harg arg rfl)).map fun body hbody => ⟨Or.inr ?_, fun b h => ?_⟩
      · rw [Option.map_some, hbody.2]
      · exact Option.some.inj h ▸ hbody.1

theorem selector_typed {arg? : Option Argument} (harg : ∀ arg, arg? = some arg → arg.IsTyped) :
    Ensures (Term.Typed (item :: types scopes)) (selector scopes item arg?) := by
  cases arg? with
  | none => exact .ok (.parameter rfl)
  | some arg => exact (harg arg rfl).body item scopes

theorem key_typed {arg? : Option Argument} {op : QueryOperator}
    (harg : ∀ arg, arg? = some arg → arg.IsTyped) :
    Ensures (Term.Typed (item :: types scopes)) (key scopes item arg? name op) := by
  refine (selector_typed harg).bind fun body hbody => ?_
  split
  · exact .ok hbody
  · exact .error

theorem operand_typed {arg : Argument} (target : Ty) (harg : arg.IsTyped) :
    Ensures (fun t => t.Typed (types scopes) ∧ t.ty = target) (operand scopes target arg) := by
  refine (harg.value scopes).bind fun value hvalue => ?_
  split
  · exact .ok (coerceTo?_typed hvalue (by assumption))
  · exact .error

theorem addend_typed {arg? : Option Argument} {op : QueryOperator}
    (harg : ∀ arg, arg? = some arg → arg.IsTyped) :
    Ensures (fun a => a.1 ∈ aggregateKinds ∧ IsBody (types scopes) item a.2 (.numeric a.1))
      (addend scopes item arg? name op) := by
  refine (selector_typed harg).bind fun body hbody => ?_
  split
  · exact .error
  · rename_i k hk
    split
    · exact .ok ⟨List.mem_of_find?_eq_some hk, coerceTo?_typed hbody (by assumption)⟩
    · exact .error

/-- A plan whose parts are typed, and whose query has the result that it states. -/
structure Plan.IsTyped (Γ : List Ty) (item : Ty) (p : Plan) : Prop where
  body : ∀ b, p.body = some b → b.Typed (item :: Γ)
  args : AllTyped Γ p.args
  gives : p.query.Gives item (p.body.map Term.ty) (p.args.map Term.ty) p.ty

/-- A plan with a function of items and no other arguments. -/
theorem isTyped_of_body {Γ : List Ty} {q : Elementwise.Query} {body : Term} {ty : Ty}
    (hb : body.Typed (item :: Γ)) (hq : q.Gives item (some body.ty) [] ty) :
    Plan.IsTyped Γ item { query := q, body := body, ty := ty } :=
  ⟨fun _ h => Option.some.inj h ▸ hb, nofun, hq⟩

/-- A plan with a function of items that may be missing. -/
theorem isTyped_of_body? {Γ : List Ty} {q : Elementwise.Query} {body : Option Term} {ty : Ty}
    (hb : ∀ b, body = some b → b.Typed (item :: Γ)) (hq : q.Gives item (body.map Term.ty) [] ty) :
    Plan.IsTyped Γ item { query := q, body := body, ty := ty } :=
  ⟨hb, nofun, hq⟩

/-- A plan with one argument that is no function of the items. -/
theorem isTyped_of_argument {Γ : List Ty} {q : Elementwise.Query} {arg : Term} {ty : Ty}
    (ha : arg.Typed Γ) (hq : q.Gives item none [arg.ty] ty) :
    Plan.IsTyped Γ item { query := q, args := [arg], ty := ty } :=
  ⟨nofun, fun _ h => List.mem_singleton.1 h ▸ ha, hq⟩

theorem isTyped_of_query {Γ : List Ty} {q : Elementwise.Query} {ty : Ty}
    (hq : q.Gives item none [] ty) : Plan.IsTyped Γ item { query := q, ty := ty } :=
  ⟨nofun, nofun, hq⟩

theorem none_or_boolean {b : Option Term} (h : b = none ∨ b.map Term.ty = some .boolean) :
    b.map Term.ty = none ∨ b.map Term.ty = some .boolean :=
  h.imp_left fun h => by rw [h, Option.map_none]

theorem plan_typed (op : QueryOperator) (hargs : ∀ arg ∈ args, arg.IsTyped) :
    Ensures (Plan.IsTyped (types scopes) item) (plan scopes item op name args) := by
  have one {β : Type} {Q : β → Prop} {f : Argument → Typed β}
      (hf : ∀ arg, arg.IsTyped → Ensures Q (f arg)) : Ensures Q (oneArgument name args >>= f) :=
    (oneArgument_typed hargs).bind hf
  have optional {β : Type} {Q : β → Prop} {f : Option Argument → Typed β}
      (hf : ∀ arg?, (∀ arg, arg? = some arg → arg.IsTyped) → Ensures Q (f arg?)) :
      Ensures Q (optionalArgument name args >>= f) :=
    (optionalArgument_typed hargs).bind hf
  have single {arg : Argument} (harg : arg.IsTyped) : ∀ a, some arg = some a → a.IsTyped :=
    fun a h => Option.some.inj h ▸ harg
  cases op with
  | select =>
      exact one fun arg harg => (harg.body item scopes).bind fun body hb =>
        .ok (isTyped_of_body hb ⟨body.ty, rfl, rfl⟩)
  | filter =>
      exact one fun arg harg => (predicate_typed harg).bind fun body hb =>
        .ok (isTyped_of_body hb.1 ⟨congrArg some hb.2, rfl⟩)
  | orderBy | orderByDescending =>
      exact one fun arg harg => (key_typed (single harg)).bind fun body hb =>
        .ok (isTyped_of_body hb ⟨rfl, rfl⟩)
  | toArray =>
      exact (Ensures.trivial (noArgument name args)).bind fun _ _ => .ok (isTyped_of_query rfl)
  | count | any =>
      exact optional fun arg? harg => (optionalPredicate_typed harg).bind fun body hb =>
        .ok (isTyped_of_body? hb.2 ⟨none_or_boolean hb.1, rfl⟩)
  | all =>
      exact one fun arg harg => (predicate_typed harg).bind fun body hb =>
        .ok (isTyped_of_body hb.1 ⟨congrArg some hb.2, rfl⟩)
  | first | last =>
      exact optional fun arg? harg => (optionalPredicate_typed harg).bind fun body hb =>
        .ok (isTyped_of_body? hb.2 ⟨none_or_boolean hb.1, rfl⟩)
  | firstOrDefault | lastOrDefault =>
      exact optional fun arg? harg => (optionalPredicate_typed harg).bind fun body hb =>
        .ok (isTyped_of_body? hb.2 ⟨none_or_boolean hb.1, Value.default_hasType item, rfl⟩)
  | sum | average =>
      exact optional fun arg? harg => (addend_typed harg).bind fun ⟨k, body⟩ hb =>
        .ok (isTyped_of_body hb.2.1 ⟨hb.1, congrArg some hb.2.2, rfl⟩)
  | min | max =>
      exact optional fun arg? harg => (key_typed harg).bind fun body hb =>
        .ok (isTyped_of_body hb rfl)
  | contains =>
      exact one fun arg harg => (operand_typed item harg).bind fun value hv =>
        .ok (isTyped_of_argument hv.1 ⟨rfl, rfl⟩)
  | take | skip =>
      exact one fun arg harg => (operand_typed .int32 harg).bind fun count hc =>
        .ok (isTyped_of_argument hc.1 ⟨congrArg (fun t => [t]) hc.2, rfl⟩)
  | distinct | reverse =>
      exact (Ensures.trivial (noArgument name args)).bind fun _ _ => .ok (isTyped_of_query rfl)

end Query

theorem query_typed {scopes : List Scope} {source : Term} {item : Ty} {op : QueryOperator}
    {name : Ident} {args : List Argument} {conditional : Bool}
    (hsource : source.Typed (types scopes))
    (hitem : (memberType conditional source.ty).element? = some item)
    (hargs : ∀ arg ∈ args, arg.IsTyped) :
    Ensures (Term.Typed (types scopes)) (query source item op name args conditional scopes) :=
  (Query.plan_typed op hargs).bind fun _ hp =>
    .ok (.query hsource hp.body hp.args hitem hp.gives rfl)

end Typing

end Elementwise
