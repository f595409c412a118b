import Elementwise.Proofs.Hereditary.Operator
import Elementwise.Proofs.Soundness.Stage

/-!
Hereditary properties of typed expressions: members, calls, queries and all else that typing makes of
terms that have such a property has it again.
-/

namespace Elementwise

namespace Hereditary

open Typing

variable {P : Term → Prop} {receiver : Term} {name : Ident} {scopes : List Scope} {item : Ty}
  {args : List Argument}

/-! ### Arguments -/

/-- Whatever an argument is typed as, as a value or as a function of items, has the property. -/
structure OfArgument (P : Term → Prop) (arg : Argument) : Prop where
  value (scopes : List Scope) : Ensures P (arg.value scopes)
  body (item : Ty) (scopes : List Scope) : Ensures P (arg.body item scopes)

theorem values_ensures (hargs : ∀ arg ∈ args, OfArgument P arg) :
    Ensures (fun ts => ∀ t ∈ ts, P t) (values args scopes) :=
  .mapM fun arg harg => (hargs arg harg).value scopes

theorem oneArgument_ensures (hargs : ∀ arg ∈ args, OfArgument P arg) :
    Ensures (OfArgument P) (Query.oneArgument name args) := by
  unfold Query.oneArgument
  split
  · exact .ok (hargs _ (List.mem_singleton_self _))
  · exact .error

theorem optionalArgument_ensures (hargs : ∀ arg ∈ args, OfArgument P arg) :
    Ensures (fun o => ∀ arg, o = some arg → OfArgument P arg)
      (Query.optionalArgument name args) := by
  unfold Query.optionalArgument
  split
  · exact .ok nofun
  · exact .ok fun arg h => Option.some.inj h ▸ hargs _ (List.mem_singleton_self _)
  · exact .error

/-! ### Queries -/

theorem predicate_ensures {arg : Argument} (harg : OfArgument P arg) :
    Ensures P (Query.predicate scopes item arg) := by
  refine (harg.body item scopes).bind fun body hbody => ?_
  split
  · exact .ok hbody
  · exact .error

theorem optionalPredicate_ensures {arg? : Option Argument}
    (harg : ∀ arg, arg? = some arg → OfArgument P arg) :
    Ensures (fun o => ∀ b, o = some b → P b) (Query.optionalPredicate scopes item arg?) := by
  cases arg? with
  | none => exact .ok nofun
  | some arg =>
      exact (predicate_ensures (harg arg rfl)).map fun body hbody b h => Option.some.inj h ▸ hbody

theorem selector_ensures (hP : Hereditary P) {arg? : Option Argument}
    (harg : ∀ arg, arg? = some arg → OfArgument P arg) :
    Ensures P (Query.selector scopes item arg?) := by
  cases arg? with
  | none => exact .ok (hP.parameter 0 item)
  | some arg => exact (harg arg rfl).body item scopes

theorem key_ensures (hP : Hereditary P) {arg? : Option Argument} {op : QueryOperator}
    (harg : ∀ arg, arg? = some arg → OfArgument P arg) :
    Ensures P (Query.key scopes item arg? name op) := by
  refine (hP.selector_ensures harg).bind fun body hbody => ?_
  split
  · exact .ok hbody
  · exact .error

theorem operand_ensures (hP : Hereditary P) {arg : Argument} (target : Ty)
    (harg : OfArgument P arg) : Ensures P (Query.operand scopes target arg) := by
  refine (harg.value scopes).bind fun value hvalue => ?_
  split
  · rename_i h
    exact .ok (hP.of_coerceTo? hvalue h)
  · exact .error

theorem addend_ensures (hP : Hereditary P) {arg? : Option Argument} {op : QueryOperator}
    (harg : ∀ arg, arg? = some arg → OfArgument P arg) :
    Ensures (fun a => P a.2) (Query.addend scopes item arg? name op) := by
  refine (hP.selector_ensures harg).bind fun body hbody => ?_
  split
  · exact .error
  · split
    · rename_i h
      exact .ok (hP.of_coerceTo? hbody h)
    · exact .error

/-- The parts of a plan have the property. -/
structure OfPlan (P : Term → Prop) (p : Query.Plan) : Prop where
  query : p.query.HasTypeDefault
  body : ∀ b, p.body = some b → P b
  args : ∀ a ∈ p.args, P a

theorem plan_ensures (hP : Hereditary P) (op : QueryOperator)
    (hargs : ∀ arg ∈ args, OfArgument P arg) :
    Ensures (OfPlan P) (Query.plan scopes item op name args) := by
  have one {Q : Query.Plan → Prop} {f : Argument → Typed Query.Plan}
      (hf : ∀ arg, OfArgument P arg → Ensures Q (f arg)) :
      Ensures Q (Query.oneArgument name args >>= f) :=
    (oneArgument_ensures hargs).bind hf
  have optional {Q : Query.Plan → Prop} {f : Option Argument → Typed Query.Plan}
      (hf : ∀ arg?, (∀ arg, arg? = some arg → OfArgument P arg) → Ensures Q (f arg?)) :
      Ensures Q (Query.optionalArgument name args >>= f) :=
    (optionalArgument_ensures hargs).bind hf
  have single {arg : Argument} (harg : OfArgument P arg) (arg' : Argument)
      (h : some arg = some arg') : OfArgument P arg' :=
    Option.some.inj h ▸ harg
  have body {b : Term} (hb : P b) (b' : Term) (h : some b = some b') : P b' :=
    Option.some.inj h ▸ hb
  unfold Query.plan
  cases op with
  | select =>
      exact one fun arg harg => (harg.body item scopes).bind fun b hb =>
        .ok ⟨nofun, body hb, nofun⟩
  | filter | all =>
      exact one fun arg harg => (predicate_ensures harg).bind fun b hb =>
        .ok ⟨nofun, body hb, nofun⟩
  | orderBy | orderByDescending =>
      exact one fun arg harg => (hP.key_ensures (single harg)).bind fun b hb =>
        .ok ⟨nofun, body hb, nofun⟩
  | toArray | distinct | reverse =>
      exact (Ensures.trivial (Query.noArgument name args)).bind fun _ _ =>
        .ok ⟨nofun, nofun, nofun⟩
  | count | any | first | last =>
      exact optional fun arg? harg => (optionalPredicate_ensures harg).bind fun b hb =>
        .ok ⟨nofun, hb, nofun⟩
  | firstOrDefault | lastOrDefault =>
      exact optional fun arg? harg => (optionalPredicate_ensures harg).bind fun b hb =>
        .ok ⟨fun v hv => ⟨item, (Option.some.inj hv).symm⟩, hb, nofun⟩
  | sum | average =>
      exact optional fun arg? harg => (hP.addend_ensures harg).bind fun a ha =>
        .ok ⟨nofun, body ha, nofun⟩
  | min | max =>
      exact optional fun arg? harg => (hP.key_ensures harg).bind fun b hb =>
        .ok ⟨nofun, body hb, nofun⟩
  | contains | take | skip =>
      exact one fun arg harg => (hP.operand_ensures _ harg).bind fun a ha =>
        .ok ⟨nofun, nofun, fun _ h => List.mem_singleton.1 h ▸ ha⟩

theorem query_ensures (hP : Hereditary P) (op : QueryOperator) (conditional : Bool)
    (hr : P receiver) (hargs : ∀ arg ∈ args, OfArgument P arg) :
    Ensures P (Typing.query receiver item op name args conditional scopes) :=
  (hP.plan_ensures op hargs).bind fun _ hp =>
    .ok (hP.query _ _ hp.query hr hp.body hp.args)

/-! ### Overloads -/

theorem coerceAll_ensures (hP : Hereditary P) (offset : Nat) (params : List Ty) {ts : List Term}
    (hts : ∀ t ∈ ts, P t) :
    Ensures (fun ts => ∀ t ∈ ts, P t) (Overload.coerceAll offset params ts) := by
  induction params generalizing ts with
  | nil => exact .ok nofun
  | cons param params ih =>
      cases ts with
      | nil => exact .ok nofun
      | cons t ts =>
          obtain ⟨ht, hts⟩ := List.forall_mem_cons.1 hts
          unfold Overload.coerceAll
          split
          · rename_i h
            exact (ih hts).map fun ts' hts' =>
              List.forall_mem_cons.2 ⟨hP.of_coerceTo? ht h, hts'⟩
          · exact .error

theorem resolve_ensures (hP : Hereditary P) (overloads : List Signature) (name : Ident)
    {ts : List Term} (hts : ∀ t ∈ ts, P t) :
    Ensures (fun call => ∀ t ∈ call.2, P t) (resolve overloads ts name) := by
  unfold resolve
  dsimp only
  split
  · exact .error
  split
  · exact .error
  split
  · exact (hP.coerceAll_ensures name.offset _ hts).map fun _ h => h
  · exact .error

theorem overloadedCall_ensures (hP : Hereditary P) (overloads : List Signature) (name : Ident)
    {ts : List Term} (hts : ∀ t ∈ ts, P t) :
    Ensures (fun call => ∀ t ∈ call.2, P t) (overloadedCall overloads ts name) :=
  (hP.resolve_ensures overloads name hts).bind fun call hcall =>
    (Ensures.trivial (checkPattern call.1.builtin call.2 name.offset)).bind fun _ _ => .ok hcall

/-! ### Members of symbols -/

theorem bindConstant_ensures (hP : Hereditary P) {s : LibrarySymbol} (hs : s ∈ Library.standard)
    (name : Ident) : Ensures P (bindConstant s name) := by
  unfold bindConstant
  split
  · rename_i h
    exact .ok (hP.library hs (List.mem_of_find?_eq_some h))
  · exact .error
  · exact .error
  · exact .error

theorem bindStaticCall_ensures (hP : Hereditary P) (s : LibrarySymbol) (name : Ident)
    (hargs : ∀ arg ∈ args, OfArgument P arg) :
    Ensures P (bindStaticCall s name args scopes) := by
  refine (Ensures.trivial (method s.members s.name name)).bind fun overloads _ => ?_
  refine (values_ensures hargs).bind fun ts hts => ?_
  exact (hP.overloadedCall_ensures overloads name hts).bind fun call hcall =>
    .ok (hP.call _ _ _ hcall)

/-! ### Members of values -/

theorem property?_ensures (hP : Hereditary P) (hr : P receiver) (lookup : Ty) (conditional : Bool)
    {found : Typed Term} (h : property? receiver lookup name conditional = some found) :
    Ensures P found := by
  unfold property? at h
  dsimp only at h
  split at h
  · obtain rfl := Option.some.inj h
    exact .ok (hP.field _ _ _ hr)
  · split at h
    · obtain rfl := Option.some.inj h
      exact .ok (hP.call _ _ _ fun a ha => List.mem_singleton.1 ha ▸ hr)
    · rename_i hfind
      exact absurd (List.mem_of_find?_eq_some hfind) Ty.not_constant_mem_members
    · obtain rfl := Option.some.inj h
      exact .error
    · cases h

theorem bindProperty_ensures (hP : Hereditary P) (name : Ident) (np : Bool) (hr : P receiver) :
    Ensures P (bindProperty receiver name np) := by
  unfold bindProperty
  dsimp only
  split
  · rename_i h
    split at h
    · exact hP.property?_ensures hr _ true h
    · cases h
  · rename_i h
    exact hP.property?_ensures hr _ false h
  · exact .error

theorem of_withReceiver (hP : Hereditary P) (s : Signature) (hr : P receiver) {ts : List Term}
    (hts : ∀ t ∈ ts, P t) : ∀ t ∈ withReceiver receiver s ts, P t := by
  unfold withReceiver
  split
  · refine List.forall_mem_cons.2 ⟨hr, fun t ht => ?_⟩
    rw [List.mem_singleton.1 ht]
    exact hP.default s.result
  · exact List.forall_mem_cons.2 ⟨hr, hts⟩

theorem bindInstanceCall_ensures (hP : Hereditary P) (name : Ident) (np : Bool) (hr : P receiver)
    (hargs : ∀ arg ∈ args, OfArgument P arg) :
    Ensures P (bindInstanceCall receiver name args np scopes) := by
  unfold bindInstanceCall
  dsimp only
  refine (Ensures.trivial _).bind fun overloads _ => ?_
  refine (values_ensures hargs).bind fun ts hts => ?_
  exact (hP.overloadedCall_ensures overloads name hts).bind fun call hcall =>
    .ok (hP.call _ _ _ (hP.of_withReceiver call.1 hr hcall))

theorem bindMethodCall_ensures (hP : Hereditary P) (name : Ident) (np : Bool) (hr : P receiver)
    (hargs : ∀ arg ∈ args, OfArgument P arg) :
    Ensures P (bindMethodCall receiver name args np scopes) := by
  unfold bindMethodCall
  dsimp only
  split
  · exact hP.query_ensures _ _ hr hargs
  · exact hP.bindInstanceCall_ensures name np hr hargs

theorem bindIndex_ensures (hP : Hereditary P) (offset : Nat) (np : Bool) (hr : P receiver)
    (hargs : ∀ arg ∈ args, OfArgument P arg) :
    Ensures P (bindIndex receiver args offset np scopes) := by
  unfold bindIndex
  dsimp only
  split
  · exact .error
  · refine ((hargs _ (List.mem_singleton_self _)).value scopes).bind fun index hindex => ?_
    split
    · rename_i h
      exact .ok (hP.index _ _ hr (hP.of_coerceTo? hindex h))
    · exact .error
  · exact .error

/-! ### Conversions and arrays -/

theorem conversionTarget_ensures {catalog : Catalog} (hc : catalog.Composed) (id : Ident) :
    Ensures (fun t => t.IsTarget ∧ t.asNullable.IsTarget) (conversionTarget catalog id) := by
  unfold conversionTarget
  split
  · exact .error
  · rename_i hs
    split
    · rename_i ht
      exact .ok ⟨⟨_, hc.lookup_mem hs, _, ht, Or.inl rfl⟩, ⟨_, hc.lookup_mem hs, _, ht, Or.inr rfl⟩⟩
    · exact .error

theorem bindConversion_ensures (hP : Hereditary P) {target : Ty} (htarget : target.IsTarget)
    (name : Ident) (hargs : ∀ arg ∈ args, OfArgument P arg) :
    Ensures P (bindConversion target name args scopes) := by
  unfold bindConversion
  split
  · exact ((hargs _ (List.mem_singleton_self _)).value scopes).bind fun t ht =>
      hP.convertTo_ensures htarget name.offset ht
  · exact .error

theorem bindArray_ensures (hP : Hereditary P) (offset : Nat) {ts : List Term}
    (hts : ∀ t ∈ ts, P t) : Ensures P (bindArray ts offset) := by
  unfold bindArray
  dsimp only
  split
  · exact .error
  · obtain ⟨hfirst, hothers⟩ := List.forall_mem_cons.1 hts
    split
    · exact .error
    · refine Ensures.bind (P := fun ts => ∀ t ∈ ts, P t) (.mapM fun t ht => ?_) fun ts' hts' =>
        .ok (hP.array _ (List.forall_mem_cons.2 ⟨hfirst, hts'⟩))
      split
      · rename_i h
        exact .ok (hP.of_coerceTo? (hothers t ht) h)
      · exact .error

/-! ### Expressions -/

variable {catalog : Catalog}

mutual

/-- Every typed expression has the property. -/
theorem bind_ensures (hP : Hereditary P) (hc : catalog.Composed) : (e : Expr) → (np : Bool) →
    (scopes : List Scope) → Ensures P (bind catalog e np scopes)
  | .literal l, _, _ => by
      rw [Typing.bind]
      exact .ok (hP.literal l)
  | .null, _, _ => by
      rw [Typing.bind]
      exact .ok hP.null
  | .it _, _, _ => by
      rw [Typing.bind]
      unfold bindIt
      split
      · exact .ok (hP.parameter _ _)
      · exact .error
  | .identifier id, _, _ => by
      rw [Typing.bind]
      unfold bindName
      split
      · exact .ok (hP.parameter _ _)
      · split
        · exact .error
        · exact .error
  | .member object name, np, scopes => by
      rw [Typing.bind]
      split
      · rename_i hs
        exact hP.bindConstant_ensures (symbol?_mem hc hs) name
      · exact (bind_ensures hP hc object np scopes).bind fun t ht =>
          hP.bindProperty_ensures name np ht
  | .index object args offset, np, scopes => by
      rw [Typing.bind]
      exact (bind_ensures hP hc object np scopes).bind fun t ht =>
        hP.bindIndex_ensures offset np ht (arguments_ensures hP hc args)
  | .call callee args offset, np, scopes => by
      cases callee with
      | identifier id =>
          rw [Typing.bind]
          split
          · exact .error
          · exact (conversionTarget_ensures hc id).bind fun target htarget =>
              hP.bindConversion_ensures htarget.1 id (arguments_ensures hP hc args)
      | member object name =>
          rw [Typing.bind]
          split
          · exact hP.bindStaticCall_ensures _ name (arguments_ensures hP hc args)
          · exact (bind_ensures hP hc object np scopes).bind fun t ht =>
              hP.bindMethodCall_ensures name np ht (arguments_ensures hP hc args)
      | _ =>
          rw [Typing.bind]
          · exact .error
          · exact nofun
          · exact nofun
  | .nullableConversion target args, _, scopes => by
      rw [Typing.bind]
      refine (conversionTarget_ensures hc target).bind fun t ht => ?_
      split
      · exact hP.bindConversion_ensures ht.2 target (arguments_ensures hP hc args)
      · exact .error
  | .unary op operand offset, _, scopes => by
      rw [Typing.bind]
      exact (bind_ensures hP hc operand false scopes).bind fun t ht =>
        hP.unary_ensures op offset ht
  | .binary op left right offset, _, scopes => by
      rw [Typing.bind]
      refine (bind_ensures hP hc left false scopes).bind fun l hl => ?_
      refine (bind_ensures hP hc right false scopes).bind fun r hr => ?_
      split
      · exact hP.coalesce_ensures offset hl hr
      · exact hP.binary_ensures _ offset hl hr
  | .conditional condition whenTrue whenFalse offset, _, scopes => by
      rw [Typing.bind]
      refine (bind_ensures hP hc condition false scopes).bind fun c hcond => ?_
      split
      · exact .error
      · refine (bind_ensures hP hc whenTrue false scopes).bind fun t ht => ?_
        refine (bind_ensures hP hc whenFalse false scopes).bind fun f hf => ?_
        exact (hP.unify_ensures offset ht hf).bind fun branches h =>
          .ok (hP.choice _ hcond h.1 h.2)
  | .nullPropagation operand _, _, scopes => by
      rw [Typing.bind]
      exact bind_ensures hP hc operand true scopes
  | .array elements offset, _, scopes => by
      rw [Typing.bind]
      exact (values_ensures (arguments_ensures hP hc elements)).bind fun ts hts =>
        hP.bindArray_ensures offset hts
  | .record members _, _, scopes => by
      rw [Typing.bind]
      exact (bindMembers_ensures hP hc members [] scopes).bind fun m hm =>
        .ok (hP.record m.1 hm)
  | .lambda _ _, _, _ => by
      rw [Typing.bind]
      exact .error

theorem arguments_ensures (hP : Hereditary P) (hc : catalog.Composed) : (args : List Expr) →
    ∀ arg ∈ arguments catalog args, OfArgument P arg
  | [] => by
      rw [arguments]
      exact nofun
  | arg :: args => by
      cases arg with
      | lambda param body =>
          rw [arguments]
          refine List.forall_mem_cons.2
            ⟨⟨fun _ => .error, fun item scopes => ?_⟩, arguments_ensures hP hc args⟩
          exact bind_ensures hP hc body false (⟨param.key, item⟩ :: scopes)
      | _ =>
          rw [arguments]
          · refine List.forall_mem_cons.2 ⟨⟨?_, fun item scopes => ?_⟩, arguments_ensures hP hc args⟩
            · exact bind_ensures hP hc _ false
            · exact bind_ensures hP hc _ false (⟨itKey, item⟩ :: scopes)
          · exact nofun

theorem bindMembers_ensures (hP : Hereditary P) (hc : catalog.Composed) :
    (members : List (Ident × Expr)) → (given : List String) → (scopes : List Scope) →
    Ensures (fun m => ∀ t ∈ m.2, P t) (bindMembers catalog members given scopes)
  | [], _, _ => by
      rw [bindMembers]
      exact .ok nofun
  | (name, e) :: members, given, scopes => by
      rw [bindMembers]
      split
      · exact .error
      · refine (bind_ensures hP hc e false scopes).bind fun value hvalue => ?_
        refine (bindMembers_ensures hP hc members _ scopes).bind fun m hm => .ok ?_
        refine List.forall_mem_cons.2 ⟨?_, hm⟩
        split
        · exact hP.coerce _ _ hvalue
        · exact hvalue

end

end Hereditary

/-! ### Stages -/

namespace Stage

variable {catalog : Catalog} {text : String} {input : Ty} {s : Stage}

theorem build_hereditary {P : Term → Prop} (hP : Hereditary P) (hc : catalog.Composed)
    (h : build catalog text input = .ok s) : P s.term := by
  unfold build at h
  split at h
  · rename_i t ht
    cases h
    obtain ⟨e, -, hb⟩ := Term.parse_eq_ok ht
    have hterm : P t := (hP.bind_ensures hc e false _).of_eq_ok hb
    dsimp only
    split
    · exact hP.coerce .nullLiteral .object hterm
    · exact hterm
  · cases h

end Stage

end Elementwise
