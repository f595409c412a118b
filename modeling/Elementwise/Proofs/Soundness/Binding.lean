import Elementwise.Proofs.Library.Catalog
import Elementwise.Proofs.Soundness.Typing.Operator
import Elementwise.Proofs.Soundness.Typing.Query

/-!
Expressions become typed terms.  In a composed catalog, whatever expression has a type at all turns
into a term in which every part is typed.
-/

namespace Elementwise

namespace Typing

variable {catalog : Catalog} {scopes : List Scope} {receiver : Term} {name : Ident}

/-! ### Names -/

theorem parameter?_typed {key : String} {depth : Nat} {ty : Ty}
    (h : parameter? key scopes = some (depth, ty)) :
    (Term.parameter depth ty).Typed (types scopes) := by
  obtain ⟨⟨s, i⟩, hfind, hpair⟩ := Option.map_eq_some_iff.1 h
  cases hpair
  have hs := List.mem_zipIdx_iff_getElem?.1 (List.mem_of_find?_eq_some hfind)
  refine .parameter ?_
  rw [types, List.getElem?_map, hs]
  rfl

theorem bindIt_typed (offset : Nat) (scopes : List Scope) :
    Ensures (Term.Typed (types scopes)) (bindIt offset scopes) := by
  unfold bindIt
  split
  · rename_i h
    exact .ok (parameter?_typed h)
  · exact .error

theorem bindName_typed (catalog : Catalog) (id : Ident) (scopes : List Scope) :
    Ensures (Term.Typed (types scopes)) (bindName catalog id scopes) := by
  unfold bindName
  split
  · rename_i h
    exact .ok (parameter?_typed h)
  · split
    · exact .error
    · exact .error

theorem symbol?_mem (hc : catalog.Composed) {e : Expr} {s : LibrarySymbol}
    (h : symbol? catalog scopes e = some s) : s ∈ Library.standard := by
  unfold symbol? at h
  split at h
  · split at h
    · cases h
    · exact hc.lookup_mem h
  · cases h

/-! ### Members of symbols -/

/-- A symbol whose members keep their promises, as those of the library do. -/
theorem fits_of_mem {s : LibrarySymbol} {m : Member} (hs : s ∈ Library.standard)
    (hm : m ∈ s.members) : m.fits = true :=
  List.all_eq_true.1 (List.all_eq_true.1 Library.standard_fits s hs) m hm

theorem bindConstant_typed {s : LibrarySymbol} (hs : s ∈ Library.standard) (name : Ident) :
    Ensures (Term.Typed (types scopes)) (bindConstant s name) := by
  unfold bindConstant
  split
  · rename_i hm
    have hfits := fits_of_mem hs (List.mem_of_find?_eq_some hm)
    rw [Member.fits, Bool.and_eq_true] at hfits
    exact .ok (.constant ⟨hfits.1, hfits.2⟩)
  · exact .error
  · exact .error
  · exact .error

theorem method_yields {members : List Member} {type : String} :
    Ensures (fun overloads => ∃ m, .method m overloads ∈ members) (method members type name) := by
  unfold method
  split
  · rename_i m overloads hm
    exact .ok ⟨m, List.mem_of_find?_eq_some hm⟩
  · exact .error
  · exact .error

theorem values_typed {args : List Argument} (hargs : ∀ arg ∈ args, arg.IsTyped) :
    Ensures (AllTyped (types scopes)) (values args scopes) :=
  .mapM fun arg harg => (hargs arg harg).value scopes

theorem bindStaticCall_typed {s : LibrarySymbol} {args : List Argument}
    (hs : s ∈ Library.standard) (hargs : ∀ arg ∈ args, arg.IsTyped) :
    Ensures (Term.Typed (types scopes)) (bindStaticCall s name args scopes) := by
  refine method_yields.bind fun overloads ⟨m, hm⟩ => ?_
  refine (values_typed hargs).bind fun ts hts => ?_
  refine (overloadedCall_typed hts).bind fun ⟨signature, ts⟩ ⟨hmem, hts, htypes⟩ => ?_
  have hfits := fits_of_mem hs hm
  rw [Member.fits, List.all_eq_true] at hfits
  have hresult := of_decide_eq_true (hfits signature hmem)
  refine .ok (.call hts ?_ rfl)
  rw [receiverTypes_false, htypes, hresult]

/-! ### Members of values -/

theorem fitsOn_of_mem {t : Ty} {m : Member} (hm : m ∈ t.members) : m.fitsOn t = true :=
  List.all_eq_true.1 t.members_fit m hm

/-- A member read from a value: `lookup` is the type that members are looked up in. -/
theorem property?_typed {lookup : Ty} {conditional : Bool} {o : Typed Term}
    (hr : receiver.Typed (types scopes)) (hlookup : memberType conditional receiver.ty = lookup)
    (h : property? receiver lookup name conditional = some o) :
    Ensures (Term.Typed (types scopes)) o := by
  unfold property? at h
  dsimp only at h
  split at h
  · rename_i i t hfield
    cases h
    obtain ⟨j, -, hfield⟩ := Option.bind_eq_some_iff.1 hfield
    obtain ⟨⟨n, t'⟩, hget, hpair⟩ := Option.map_eq_some_iff.1 hfield
    cases hpair
    cases lookup with
    | record fields => exact .ok (.field hr hlookup hget rfl)
    | _ => cases hget
  · split at h
    · rename_i m t b hm
      cases h
      have hfits := fitsOn_of_mem (List.mem_of_find?_eq_some hm)
      have hresult : b.result? [lookup] = some t := of_decide_eq_true hfits
      refine .ok (.call (fun a ha => List.mem_singleton.1 ha ▸ hr) ?_ rfl)
      rw [← hlookup] at hresult
      exact hresult
    · rename_i hm
      cases h
      have hfits := fitsOn_of_mem (List.mem_of_find?_eq_some hm)
      rw [Member.fitsOn, Bool.and_eq_true] at hfits
      exact .ok (.constant ⟨hfits.1, hfits.2⟩)
    · cases h
      exact .error
    · cases h

theorem bindProperty_typed {np : Bool} (hr : receiver.Typed (types scopes)) :
    Ensures (Term.Typed (types scopes)) (bindProperty receiver name np) := by
  unfold bindProperty
  dsimp only
  split
  · rename_i h
    have hlookup : memberType true receiver.ty = receiver.ty.underlying := rfl
    split at h
    · exact property?_typed hr hlookup h
    · cases h
  · rename_i h
    have hlookup : memberType false receiver.ty = receiver.ty := rfl
    exact property?_typed hr hlookup h
  · exact .error

/-- The receiver with the arguments of a call has the types that the signature has on it. -/
theorem withReceiver_typed {s : Signature} {args : List Term} {conditional : Bool}
    (hr : receiver.Typed (types scopes)) (hargs : AllTyped (types scopes) args)
    (hty : args.map Term.ty = s.params) :
    AllTyped (types scopes) (withReceiver receiver s args) ∧
      receiverTypes conditional ((withReceiver receiver s args).map Term.ty) =
        s.withReceiver (memberType conditional receiver.ty) := by
  have hempty : args.isEmpty = s.params.isEmpty := by
    rw [← hty]
    cases args <;> rfl
  unfold withReceiver Signature.withReceiver
  rw [hempty]
  split
  · refine ⟨List.forall_mem_cons.2 ⟨hr, fun t ht => ?_⟩, rfl⟩
    rw [List.mem_singleton.1 ht]
    exact .constant (Value.default_hasType s.result)
  · refine ⟨List.forall_mem_cons.2 ⟨hr, hargs⟩, ?_⟩
    rw [List.map_cons, receiverTypes, hty]

theorem bindInstanceCall_typed {args : List Argument} {np : Bool}
    (hr : receiver.Typed (types scopes)) (hargs : ∀ arg ∈ args, arg.IsTyped) :
    Ensures (Term.Typed (types scopes)) (bindInstanceCall receiver name args np scopes) := by
  unfold bindInstanceCall
  refine method_yields.bind fun overloads ⟨m, hm⟩ => ?_
  refine (values_typed hargs).bind fun ts hts => ?_
  refine (overloadedCall_typed hts).bind fun ⟨s, ts⟩ ⟨hmem, hts, htypes⟩ => ?_
  have hfits := fitsOn_of_mem hm
  rw [Member.fitsOn, List.all_eq_true] at hfits
  have hresult := of_decide_eq_true (hfits s hmem)
  obtain ⟨hall, hreceiver⟩ := withReceiver_typed hr hts htypes
  refine .ok (.call hall ?_ rfl)
  rw [hreceiver, hresult]

theorem bindMethodCall_typed {args : List Argument} {np : Bool}
    (hr : receiver.Typed (types scopes)) (hargs : ∀ arg ∈ args, arg.IsTyped) :
    Ensures (Term.Typed (types scopes)) (bindMethodCall receiver name args np scopes) := by
  unfold bindMethodCall
  dsimp only
  split
  · rename_i hitem _
    exact query_typed hr hitem hargs
  · exact bindInstanceCall_typed hr hargs

theorem bindIndex_typed {args : List Argument} {offset : Nat} {np : Bool}
    (hr : receiver.Typed (types scopes)) (hargs : ∀ arg ∈ args, arg.IsTyped) :
    Ensures (Term.Typed (types scopes)) (bindIndex receiver args offset np scopes) := by
  unfold bindIndex
  dsimp only
  split
  · exact .error
  · rename_i item arg hitem
    refine ((hargs arg (List.mem_singleton_self arg)).value scopes).bind fun index hindex => ?_
    split
    · rename_i hc
      obtain ⟨hi, hit⟩ := coerceTo?_typed hindex hc
      exact .ok (.index hr hi hitem hit rfl)
    · exact .error
  · exact .error

/-! ### Conversions and literals -/

theorem bindConversion_typed {target : Ty} {args : List Argument}
    (hargs : ∀ arg ∈ args, arg.IsTyped) :
    Ensures (Term.Typed (types scopes)) (bindConversion target name args scopes) := by
  unfold bindConversion
  split
  · rename_i arg
    exact ((hargs arg (List.mem_singleton_self arg)).value scopes).bind fun t ht =>
      convertTo_typed ht
  · exact .error

theorem bindNullableConversion_typed {args : List Argument}
    (hargs : ∀ arg ∈ args, arg.IsTyped) :
    Ensures (Term.Typed (types scopes)) (bindNullableConversion catalog name args scopes) := by
  refine (Ensures.trivial (conversionTarget catalog name)).bind fun t _ => ?_
  split
  · exact bindConversion_typed hargs
  · exact .error

theorem bindArray_typed {elements : List Term} {offset : Nat}
    (h : AllTyped (types scopes) elements) :
    Ensures (Term.Typed (types scopes)) (bindArray elements offset) := by
  unfold bindArray
  dsimp only
  split
  · exact .error
  · rename_i first others
    obtain ⟨hfirst, hothers⟩ := List.forall_mem_cons.1 h
    split
    · exact .error
    · refine Ensures.bind (P := fun ts : List Term =>
        ∀ e ∈ ts, e.Typed (types scopes) ∧ e.ty = first.ty) (.mapM fun e he => ?_) fun ts hts => ?_
      · split
        · rename_i hc
          exact .ok (coerceTo?_typed (hothers e he) hc)
        · exact .error
      · refine .ok (.array (t := first.ty) ?_ ?_)
        · exact List.forall_mem_cons.2 ⟨hfirst, fun e he => (hts e he).1⟩
        · exact List.forall_mem_cons.2 ⟨rfl, fun e he => (hts e he).2⟩

theorem bindLiteral_typed (l : Literal) : (bindLiteral l).Typed (types scopes) := by
  cases l with
  | boolean b => exact .constant (Value.hasType_boolean.2 ⟨b, rfl⟩)
  | char c => exact .constant (Value.hasType_char.2 ⟨c, rfl⟩)
  | string s => exact .constant (Value.hasType_string.2 (Or.inr ⟨s, rfl⟩))
  | number n => exact .constant (Value.hasType_numeric.2 ⟨n, rfl, rfl⟩)

/-! ### Expressions -/

/-- An argument that is no lambda calls the item `it`. -/
theorem arguments_cons {e : Expr} (h : ∀ param body, e ≠ .lambda param body) (es : List Expr) :
    arguments catalog (e :: es) =
      { offset := e.offset
        value := fun scopes => bind catalog e false scopes
        body := fun item scopes => bind catalog e false (⟨itKey, item⟩ :: scopes) } ::
        arguments catalog es := by
  rw [arguments]
  exact h

mutual

theorem bind_typed (hc : catalog.Composed) : (e : Expr) → (np : Bool) → (scopes : List Scope) →
    Ensures (Term.Typed (types scopes)) (bind catalog e np scopes)
  | .literal l, _, scopes => by
      rw [bind]
      exact .ok (bindLiteral_typed l)
  | .null, _, scopes => by
      rw [bind]
      exact .ok (.constant (Value.null_hasType.2 rfl))
  | .it offset, _, scopes => by
      rw [bind]
      exact bindIt_typed offset scopes
  | .identifier id, _, scopes => by
      rw [bind]
      exact bindName_typed catalog id scopes
  | .member object name, np, scopes => by
      rw [bind]
      split
      · rename_i s hs
        exact bindConstant_typed (symbol?_mem hc hs) name
      · exact (bind_typed hc object np scopes).bind fun t ht => bindProperty_typed ht
  | .index object args offset, np, scopes => by
      rw [bind]
      exact (bind_typed hc object np scopes).bind fun t ht =>
        bindIndex_typed ht (arguments_typed hc args)
  | .call object args offset, np, scopes => by
      cases object with
      | identifier id =>
          rw [bind]
          split
          · exact .error
          · exact (Ensures.trivial (conversionTarget catalog id)).bind fun target _ =>
              bindConversion_typed (arguments_typed hc args)
      | member object name =>
          rw [bind]
          split
          · rename_i s hs
            exact bindStaticCall_typed (symbol?_mem hc hs) (arguments_typed hc args)
          · exact (bind_typed hc object np scopes).bind fun t ht =>
              bindMethodCall_typed ht (arguments_typed hc args)
      | _ =>
          rw [bind]
          · exact .error
          · exact nofun
          · exact nofun
  | .nullableConversion target args, _, scopes => by
      rw [bind]
      exact bindNullableConversion_typed (arguments_typed hc args)
  | .unary op operand offset, _, scopes => by
      rw [bind]
      exact (bind_typed hc operand false scopes).bind fun t ht => unary_typed ht
  | .binary op left right offset, _, scopes => by
      rw [bind]
      refine (bind_typed hc left false scopes).bind fun l hl => ?_
      refine (bind_typed hc right false scopes).bind fun r hr => ?_
      split
      · exact coalesce_typed hl hr
      · rename_i hop
        exact binary_typed hl hr hop
  | .conditional condition whenTrue whenFalse offset, _, scopes => by
      rw [bind]
      refine (bind_typed hc condition false scopes).bind fun c hcond => ?_
      split
      · exact .error
      · rename_i hbool
        refine (bind_typed hc whenTrue false scopes).bind fun t ht => ?_
        refine (bind_typed hc whenFalse false scopes).bind fun f hf => ?_
        refine (unify_typed ht hf).bind fun ⟨t, f⟩ ⟨ht, hf, hty⟩ => ?_
        exact .ok (.choice hcond ht hf (Decidable.not_not.1 hbool) rfl hty)
  | .nullPropagation operand _, _, scopes => by
      rw [bind]
      exact bind_typed hc operand true scopes
  | .array elements offset, _, scopes => by
      rw [bind]
      exact (values_typed (arguments_typed hc elements)).bind fun ts hts => bindArray_typed hts
  | .record members _, _, scopes => by
      rw [bind]
      exact (bindMembers_typed hc members [] scopes).bind fun ⟨fields, values⟩ h =>
        .ok (.record h.1 h.2)
  | .lambda param _, _, _ => by
      rw [bind]
      exact .error

theorem arguments_typed (hc : catalog.Composed) : (args : List Expr) →
    ∀ arg ∈ arguments catalog args, arg.IsTyped
  | [] => by
      rw [arguments]
      exact nofun
  | arg :: args => by
      cases arg with
      | lambda param body =>
          rw [arguments]
          refine List.forall_mem_cons.2
            ⟨⟨fun _ => .error, fun item scopes => ?_⟩, arguments_typed hc args⟩
          exact bind_typed hc body false (⟨param.key, item⟩ :: scopes)
      | _ =>
          rw [arguments]
          · refine List.forall_mem_cons.2 ⟨⟨?_, fun item scopes => ?_⟩, arguments_typed hc args⟩
            · exact bind_typed hc _ false
            · exact bind_typed hc _ false (⟨itKey, item⟩ :: scopes)
          · exact nofun

theorem bindMembers_typed (hc : catalog.Composed) : (members : List (Ident × Expr)) →
    (given : List String) → (scopes : List Scope) →
    Ensures (fun r => AllTyped (types scopes) r.2 ∧
        List.Forall₂ (fun f v => v.ty = f.2) r.1 r.2)
      (bindMembers catalog members given scopes)
  | [], _, _ => by
      rw [bindMembers]
      exact .ok ⟨nofun, .nil⟩
  | (name, e) :: members, given, scopes => by
      rw [bindMembers]
      split
      · exact .error
      · refine (bind_typed hc e false scopes).bind fun value hvalue => ?_
        have htyped : (if value.isNullLiteral then value.coerce .nullLiteral .object
            else value).Typed (types scopes) := by
          split
          · rename_i hnull
            refine .coerce hvalue ?_
            rw [of_decide_eq_true hnull]
            exact .nullLiteral rfl
          · exact hvalue
        exact (bindMembers_typed hc members _ scopes).bind fun ⟨fields, values⟩ h =>
          .ok ⟨List.forall_mem_cons.2 ⟨htyped, h.1⟩, .cons rfl h.2⟩

end

end Typing

end Elementwise
