import Elementwise.Eval.Term
import Elementwise.Proofs.Library.Catalog
import Elementwise.Proofs.Outcome
import Elementwise.Proofs.Soundness.Binding
import Elementwise.Typing.Binding

/-!
Null propagation.  A link is what a member access adds to its receiver: a field, a call with its
other arguments, an index or a query.  It may be added to any receiver and be made conditional; a
conditional link passes `null` on, and otherwise the flag makes no difference.

A chain starts at `it` and goes on with members, indices and queries.  Inside `np(…)` it is typed
link by link like outside of it, with types that may have become nullable, and so every link whose
receiver may be `null` is conditional.  The links that nullable values have of their own are the
exception, since they are there for `null`.
-/

namespace Elementwise

open Eval
open Typing (resultType)

/-! ### Links -/

/-- What an access adds to its receiver, with the type that it has on a receiver that is there. -/
inductive Link where
  | field (index : Nat) (ty : Ty)
  | call (builtin : Builtin) (args : List Term) (ty : Ty)
  | index (index : Term) (ty : Ty)
  | query (q : Query) (body : Option Term) (args : List Term) (ty : Ty)

namespace Link

def ty : Link → Ty
  | field _ ty | call _ _ ty | index _ ty | query _ _ _ ty => ty

/-- The access to a receiver. -/
def after (l : Link) (receiver : Term) (conditional : Bool) : Term :=
  match l with
  | field i t => .field receiver i conditional (resultType conditional t)
  | call b args t => .call b (receiver :: args) conditional (resultType conditional t)
  | index i t => .index receiver i conditional (resultType conditional t)
  | query q body args t => .query q receiver body args conditional (resultType conditional t)

theorem after_ty (l : Link) (receiver : Term) (conditional : Bool) :
    (l.after receiver conditional).ty = resultType conditional l.ty := by
  cases l <;> rfl

variable {receiver receiver' : Term} {env : List Value}

/-- A conditional access passes `null` on, whatever its other parts would do. -/
theorem evaluate_after_null (l : Link) (h : evaluate receiver env = .ok .null) :
    evaluate (l.after receiver true) env = .ok .null := by
  cases l with
  | field i t =>
      rw [after, evaluate, h]
      rfl
  | call b args t =>
      rw [after, evaluate, evaluateArguments, h]
      rfl
  | index i t =>
      rw [after, evaluate, h]
      rfl
  | query q body args t =>
      rw [after, evaluate, h]
      rfl

/-- On receivers that do the same and are not `null`, accesses do the same, conditional or not. -/
theorem evaluate_after_congr (l : Link) (conditional : Bool)
    (h : evaluate receiver' env = evaluate receiver env)
    (hn : evaluate receiver env ≠ .ok .null) :
    evaluate (l.after receiver' conditional) env = evaluate (l.after receiver false) env := by
  cases hv : evaluate receiver env with
  | error f =>
      cases l with
      | call b args t =>
          rw [after, after, evaluate, evaluate, evaluateArguments, evaluateArguments, h, hv]
          rfl
      | _ =>
          rw [after, after, evaluate, evaluate, h, hv]
          rfl
  | ok v =>
      have hv' : v ≠ .null := by
        rintro rfl
        exact hn hv
      cases l with
      | field i t =>
          rw [after, after, evaluate, evaluate, h, hv]
          cases v with
          | null => exact absurd rfl hv'
          | _ => rfl
      | call b args t =>
          rw [after, after, evaluate, evaluate, evaluateArguments, evaluateArguments, h, hv]
          cases v with
          | null => exact absurd rfl hv'
          | _ => cases conditional <;> rfl
      | index i t =>
          rw [after, after, evaluate, evaluate, h, hv]
          cases v with
          | null => exact absurd rfl hv'
          | _ => rfl
      | query q body args t =>
          rw [after, after, evaluate, evaluate, h, hv]
          cases v with
          | null => exact absurd rfl hv'
          | _ => cases conditional <;> rfl

end Link

namespace Ty

variable {t : Ty}

theorem acceptsNull_asNullable (t : Ty) : t.asNullable.acceptsNull = true := by
  cases t <;> rfl

theorem asNullable_ne_null (h : t ≠ .null) : t.asNullable ≠ .null := by
  cases t with
  | null => exact absurd rfl h
  | _ => nofun

/-- The type itself or the nullable type over it. -/
def LiftsTo (t t' : Ty) : Prop :=
  t' = t ∨ t' = t.asNullable

theorem LiftsTo.ne_null {t' : Ty} (h : t.LiftsTo t') (ht : t ≠ .null) : t' ≠ .null := by
  rcases h with rfl | rfl
  · exact ht
  · exact asNullable_ne_null ht

end Ty

namespace Typing

variable {t : Ty} {receiver c : Term} {name : Ident} {scopes : List Scope}

/-! ### Receivers -/

theorem isConditional_of_ne_null (h : t ≠ .null) : isConditional true t = t.acceptsNull := by
  rw [isConditional, Bool.true_and, bne_iff_ne.2 h, Bool.and_true]

/-- Members of a type that is not nullable are found in it when it is lifted, too. -/
theorem memberType_of_liftsTo {t' : Ty} (h : t.LiftsTo t') (hn : t ≠ .null)
    (ht : t.isNullable = false) : memberType (isConditional true t') t' = t := by
  rw [isConditional_of_ne_null (h.ne_null hn)]
  rcases h with rfl | rfl
  · unfold memberType
    split
    · exact underlying_of_isNullable_false ht
    · rfl
  · rw [Ty.acceptsNull_asNullable]
    cases t with
    | nullable t => cases ht
    | _ => rfl

/-- Typing makes the same link of a receiver of the type inside of `np(…)` and outside of it, where
`access` types the access to the receiver. -/
def Links (t : Ty) (access : (receiver : Term) → (np : Bool) → Typed Term) : Prop :=
  ∀ receiver c, receiver.ty = t → access receiver false = .ok c →
    ∃ l : Link, c = l.after receiver false ∧
      ∀ receiver', t.LiftsTo receiver'.ty →
        access receiver' true = .ok (l.after receiver' (isConditional true receiver'.ty))

/-! ### Properties -/

theorem exists_link_of_property? {lookup : Ty}
    (h : property? receiver lookup name false = some (.ok c)) :
    ∃ l : Link, c = l.after receiver false ∧
      ∀ receiver' conditional,
        property? receiver' lookup name conditional = some (.ok (l.after receiver' conditional)) := by
  unfold property? at h ⊢
  dsimp only at h ⊢
  split at h
  · rename_i i t _
    cases h
    exact ⟨.field i t, rfl, fun _ _ => rfl⟩
  · split at h
    · rename_i t b _
      cases h
      exact ⟨.call b [] t, rfl, fun _ _ => rfl⟩
    · rename_i hfind
      exact absurd (List.mem_of_find?_eq_some hfind) Ty.not_constant_mem_members
    · cases h
    · cases h

/-- Whether a name is that of a property that nullable values have of their own. -/
def isNullableProperty (name : Ident) : Bool :=
  Text.sameIgnoringAsciiCase "HasValue" name.name || Text.sameIgnoringAsciiCase "Value" name.name

theorem isNullableProperty_of_property? (ht : t.isNullable = true)
    (h : property? receiver t name false = some (.ok c)) : isNullableProperty name = true := by
  cases t with
  | nullable t =>
      unfold property? at h
      dsimp only at h
      split at h
      · rename_i hfield
        cases hfield
      · split at h
        · rename_i hfind
          have hname := List.find?_some hfind
          have hmem := List.mem_of_find?_eq_some hfind
          simp only [Ty.members, Ty.ownMembers, Member.single, List.mem_cons, Member.property.injEq,
            reduceCtorEq, List.not_mem_nil, or_false, false_or] at hmem
          rcases hmem with ⟨rfl, -⟩ | ⟨rfl, -⟩
          · exact Bool.or_eq_true_iff.2 (Or.inl hname)
          · exact Bool.or_eq_true_iff.2 (Or.inr hname)
        · rename_i hfind
          exact absurd (List.mem_of_find?_eq_some hfind) Ty.not_constant_mem_members
        · cases h
        · cases h
  | _ => cases ht

theorem bindProperty_links (hn : t ≠ .null)
    (hname : t.isNullable = true → isNullableProperty name = false) :
    Links t (bindProperty · name ·) := by
  rintro receiver c rfl h
  have hplain : property? receiver receiver.ty name false = some (.ok c) := by
    unfold bindProperty at h
    dsimp only [isConditional] at h
    split at h
    · rename_i hfound
      cases hfound
    · rename_i hfound
      rw [hfound, h]
    · cases h
  have ht : receiver.ty.isNullable = false := by
    cases ht : receiver.ty.isNullable with
    | false => rfl
    | true =>
        have := isNullableProperty_of_property? ht hplain
        rw [hname ht] at this
        cases this
  obtain ⟨l, rfl, hl⟩ := exists_link_of_property? hplain
  refine ⟨l, rfl, fun receiver' hlifts => ?_⟩
  have hlookup := memberType_of_liftsTo hlifts hn ht
  unfold bindProperty
  dsimp only
  cases hc : isConditional true receiver'.ty with
  | true =>
      rw [hc] at hlookup
      have hlookup : receiver'.ty.underlying = receiver.ty := hlookup
      rw [if_pos rfl, hlookup, hl]
  | false =>
      rw [hc] at hlookup
      have hlookup : receiver'.ty = receiver.ty := hlookup
      rw [if_neg Bool.false_ne_true, hlookup, hl]

/-! ### Indices and queries -/

theorem isNullable_of_indexed? {item : Ty} (h : indexed? t = some item) : t.isNullable = false := by
  cases t with
  | nullable t => cases h
  | _ => rfl

theorem bindIndex_links (hn : t ≠ .null) (args : List Argument) (offset : Nat) :
    Links t (bindIndex · args offset · scopes) := by
  rintro receiver c rfl h
  unfold bindIndex at h
  dsimp only [isConditional, memberType] at h
  split at h
  · cases h
  · rename_i item arg hitem
    obtain ⟨index, hindex, h⟩ := bind_eq_ok h
    split at h
    · rename_i index' hcoerce
      cases h
      refine ⟨.index index' item, rfl, fun receiver' hlifts => ?_⟩
      have hitem : indexed? receiver.ty = some item := hitem
      have hlookup := memberType_of_liftsTo hlifts hn (isNullable_of_indexed? hitem)
      simp only [bindIndex, hlookup, hitem, hindex, ok_bind, hcoerce]
      rfl
    · cases h
  · cases h

theorem isNullable_of_element? {item : Ty} (h : t.element? = some item) : t.isNullable = false := by
  cases t with
  | nullable t => cases h
  | _ => rfl

theorem query_links (item : Ty) (op : QueryOperator) (args : List Argument) (hn : t ≠ .null) :
    Links t fun receiver np =>
      query receiver item op name args (isConditional np receiver.ty) scopes := by
  rintro receiver c rfl h
  obtain ⟨p, hp, h⟩ := bind_eq_ok h
  cases h
  refine ⟨.query p.query p.body p.args p.ty, rfl, fun receiver' _ => ?_⟩
  dsimp only
  rw [query, hp]
  rfl

/-! ### Methods -/

theorem method_eq_ok_iff {members : List Member} {type : String} {overloads : List Signature} :
    method members type name = .ok overloads ↔
      ∃ m, Member.find? members name.name = some (.method m overloads) := by
  unfold method
  constructor
  · intro h
    split at h
    · rename_i m _ hfind
      cases h
      exact ⟨m, hfind⟩
    · cases h
    · cases h
  · rintro ⟨m, hfind⟩
    rw [hfind]

/-- Whether a name is that of the method that nullable values have of their own. -/
def isNullableMethod (name : Ident) : Bool :=
  Text.sameIgnoringAsciiCase "GetValueOrDefault" name.name

/-- The only other method of nullable values is the one that all values have. -/
theorem isToString_of_find? {m : String} {overloads : List Signature} (ht : t.isNullable = true)
    (hfind : Member.find? t.members name.name = some (.method m overloads))
    (hname : isNullableMethod name = false) :
    Text.sameIgnoringAsciiCase "ToString" name.name = true := by
  cases t with
  | nullable t =>
      have hsame := List.find?_some hfind
      have hmem := List.mem_of_find?_eq_some hfind
      simp only [Ty.members, Ty.ownMembers, Member.single, List.mem_cons, Member.method.injEq,
        reduceCtorEq, List.not_mem_nil, or_false, false_or] at hmem
      rcases hmem with ⟨rfl, -⟩ | ⟨rfl, -⟩
      · exact hsame
      · have hsame : isNullableMethod name = true := hsame
        rw [hname] at hsame
        cases hsame
  | _ => cases ht

theorem find?_members_of_isToString (t : Ty)
    (h : Text.sameIgnoringAsciiCase "ToString" name.name = true) :
    Member.find? t.members name.name = some (.single "ToString" [] .string .toText) :=
  List.find?_cons_of_pos h

theorem ofName?_of_isToString (h : Text.sameIgnoringAsciiCase "ToString" name.name = true) :
    QueryOperator.ofName? name.name = none := by
  have hsame : QueryOperator.ofName? name.name = QueryOperator.ofName? "ToString" := by
    simp only [QueryOperator.ofName?, Text.sameIgnoringAsciiCase, ← eq_of_beq h]
  rw [hsame]
  decide

/-- A method is found in a type that is lifted, too. -/
theorem find?_members_of_liftsTo {t' : Ty} {m : String} {overloads : List Signature}
    (h : t.LiftsTo t') (hn : t ≠ .null) (hname : isNullableMethod name = false)
    (hfind : Member.find? t.members name.name = some (.method m overloads)) :
    Member.find? (memberType (isConditional true t') t').members name.name =
      some (.method m overloads) := by
  cases ht : t.isNullable with
  | false => rw [memberType_of_liftsTo h hn ht, hfind]
  | true =>
      have hsame := isToString_of_find? ht hfind hname
      rw [find?_members_of_isToString _ hsame] at hfind ⊢
      exact hfind

/-- The function with a default of its own is behind that method only. -/
theorem builtin_ne_getValueOrDefault {m : String} {overloads : List Signature} {s : Signature}
    (hfind : Member.find? t.members name.name = some (.method m overloads)) (hs : s ∈ overloads)
    (hname : isNullableMethod name = false) : s.builtin ≠ .getValueOrDefault := by
  intro hb
  have hall : (t.members.all fun m =>
      m.name == "GetValueOrDefault" || !m.builtins.contains .getValueOrDefault) = true := by
    cases t <;> rfl
  have h := List.all_eq_true.1 hall _ (List.mem_of_find?_eq_some hfind)
  rcases Bool.or_eq_true_iff.1 h with h | h
  · have hsame := List.find?_some hfind
    rw [eq_of_beq h] at hsame
    have hsame : isNullableMethod name = true := hsame
    rw [hname] at hsame
    cases hsame
  · have hmem : Builtin.getValueOrDefault ∈ overloads.map (·.builtin) :=
      hb ▸ List.mem_map_of_mem hs
    rw [Bool.not_eq_true', List.contains_eq_mem, decide_eq_false_iff_not] at h
    exact h hmem

theorem withReceiver_eq_cons {s : Signature} (hs : s.builtin ≠ .getValueOrDefault)
    (receiver : Term) (args : List Term) : withReceiver receiver s args = receiver :: args :=
  if_neg fun h => hs h.1

theorem exists_method_of_bindInstanceCall {args : List Argument}
    (h : bindInstanceCall receiver name args false scopes = .ok c) :
    ∃ m overloads, Member.find? receiver.ty.members name.name = some (.method m overloads) := by
  obtain ⟨overloads, hmethod, -⟩ := bind_eq_ok h
  obtain ⟨m, hfind⟩ := method_eq_ok_iff.1 hmethod
  exact ⟨m, overloads, hfind⟩

theorem bindInstanceCall_links (hn : t ≠ .null) (hname : isNullableMethod name = false)
    {args : List Argument} (hargs : ∀ arg ∈ args, arg.IsTyped) :
    Links t (bindInstanceCall · name args · scopes) := by
  rintro receiver c rfl h
  obtain ⟨overloads, hmethod, h⟩ := bind_eq_ok h
  obtain ⟨ts, hts, h⟩ := bind_eq_ok h
  obtain ⟨⟨s, ts'⟩, hcall, h⟩ := bind_eq_ok h
  cases h
  obtain ⟨m, hfind⟩ := method_eq_ok_iff.1 hmethod
  have hfind : Member.find? receiver.ty.members name.name = some (.method m overloads) := hfind
  have hmem : s ∈ overloads :=
    ((overloadedCall_typed ((values_typed hargs).of_eq_ok hts)).of_eq_ok hcall).1
  have hcons := withReceiver_eq_cons (builtin_ne_getValueOrDefault hfind hmem hname)
  refine ⟨.call s.builtin ts' s.result, ?_, fun receiver' hlifts => ?_⟩
  · rw [hcons]
    rfl
  · have hfind' := find?_members_of_liftsTo hlifts hn hname hfind
    simp only [bindInstanceCall, hfind', Option.isSome_some, Bool.and_true,
      method_eq_ok_iff.2 ⟨m, hfind'⟩, ok_bind, hts, hcall, hcons]
    rfl

/-- The name of a method that is a query operator on the lifted type is one on the type. -/
theorem element?_of_liftsTo {t' : Ty} {m : String} {overloads : List Signature}
    {item : Ty} {op : QueryOperator} (h : t.LiftsTo t') (hn : t ≠ .null)
    (hname : isNullableMethod name = false)
    (hfind : Member.find? t.members name.name = some (.method m overloads))
    (hitem : (memberType (isConditional true t') t').element? = some item)
    (hop : QueryOperator.ofName? name.name = some op) : t.element? = some item := by
  cases ht : t.isNullable with
  | false => rwa [memberType_of_liftsTo h hn ht] at hitem
  | true =>
      rw [ofName?_of_isToString (isToString_of_find? ht hfind hname)] at hop
      cases hop

theorem bindMethodCall_links (hn : t ≠ .null) (hname : isNullableMethod name = false)
    {args : List Argument} (hargs : ∀ arg ∈ args, arg.IsTyped) :
    Links t (bindMethodCall · name args · scopes) := by
  rintro receiver c rfl h
  unfold bindMethodCall at h
  dsimp only at h
  split at h
  · rename_i item op hitem hop
    have hitem : receiver.ty.element? = some item := hitem
    obtain ⟨l, rfl, hl⟩ := query_links item op args hn receiver c rfl h
    refine ⟨l, rfl, fun receiver' hlifts => ?_⟩
    have hlookup := memberType_of_liftsTo hlifts hn (isNullable_of_element? hitem)
    simp only [bindMethodCall, hlookup, hitem, hop]
    exact hl receiver' hlifts
  · rename_i hnone
    obtain ⟨m, overloads, hfind⟩ := exists_method_of_bindInstanceCall h
    obtain ⟨l, rfl, hl⟩ := bindInstanceCall_links hn hname hargs receiver c rfl h
    refine ⟨l, rfl, fun receiver' hlifts => ?_⟩
    unfold bindMethodCall
    dsimp only
    split
    · rename_i item op hitem hop
      exact (hnone item op (element?_of_liftsTo hlifts hn hname hfind hitem hop)
        hop).elim
    · exact hl receiver' hlifts

end Typing

end Elementwise
