import Elementwise.Proofs.Nullable.Binding
import Elementwise.Proofs.Propagation.Binding

/-!
Null propagation along a chain that starts at `it` and goes on with members, indices and queries.
Inside `np(…)` such a chain has a type whenever it has one outside, and what it does differs only
where one of its receivers is `null`: then it is `null` as a whole.
-/

namespace Elementwise

open Eval
open Typing (Links bind bindInput itKey isConditional isNullableProperty isNullableMethod)

namespace Expr

/-- The receivers along a chain, from its end. -/
def receivers : Expr → List Expr
  | member r _ | index r _ _ | call (member r _) _ _ => r :: r.receivers
  | _ => []

variable (catalog : Catalog) (input : Ty)

/-- The chains from `it`.  No receiver has the type of the literal `null`, and no member is one that
nullable values have of their own. -/
inductive IsChain : Expr → Prop where
  | it (offset : Nat) : IsChain (.it offset)
  | member {r : Expr} {name : Ident} (h : r.IsChain)
    (hr : Ensures (fun t => t.ty ≠ .null ∧
      (t.ty.isNullable = true → isNullableProperty name = false)) (bindInput catalog r input)) :
    IsChain (.member r name)
  | index {r arg : Expr} {offset : Nat} (h : r.IsChain)
    (hr : Ensures (·.ty ≠ .null) (bindInput catalog r input)) : IsChain (.index r [arg] offset)
  | call {r : Expr} {name : Ident} {args : List Expr} {offset : Nat} (h : r.IsChain)
    (hr : Ensures (·.ty ≠ .null) (bindInput catalog r input))
    (hname : isNullableMethod name = false) : IsChain (.call (.member r name) args offset)

/-- Some receiver along the chain is `null` for the input given. -/
def MeetsNull (e : Expr) (v : Value) : Prop :=
  ∃ r ∈ e.receivers, ∃ t, bindInput catalog r input = .ok t ∧ evaluate t [v] = .ok .null

variable {catalog input}

theorem meetsNull_iff {e r : Expr} {t : Term} {v : Value} (he : e.receivers = r :: r.receivers)
    (hr : bindInput catalog r input = .ok t) :
    e.MeetsNull catalog input v ↔ evaluate t [v] = .ok .null ∨ r.MeetsNull catalog input v := by
  rw [MeetsNull, he, List.exists_mem_cons_iff, hr]
  refine or_congr_left ⟨?_, fun h => ⟨t, rfl, h⟩⟩
  rintro ⟨_, ⟨⟩, h⟩
  exact h

theorem IsChain.symbol?_eq_none {e : Expr} (h : e.IsChain catalog input)
    (scopes : List Typing.Scope) : Typing.symbol? catalog scopes e = none := by
  cases h <;> rfl

end Expr

namespace Typing

variable {catalog : Catalog} {input : Ty} {nulls nulls' : Value → Prop} {t t' : Term}

/-! ### Terms inside and outside of `np(…)` -/

/-- The second term is the first one inside of `np(…)`: it is `null` for the inputs in `nulls`, and
for the others it does what the first one does. -/
structure Propagates (input : Ty) (nulls : Value → Prop) (t t' : Term) : Prop where
  lifts : t.ty.LiftsTo t'.ty
  acceptsNull : input.acceptsNull = true → t'.ty.acceptsNull = true
  null : ∀ v, v.conformsTo input = true → nulls v → evaluate t' [v] = .ok .null
  agree : ∀ v, v.conformsTo input = true → ¬nulls v → evaluate t' [v] = evaluate t [v]

/-- The input is typed all through if its type has no `null`, as such types have no parts. -/
theorem hasType_of_conformsTo {v : Value} (h : input.acceptsNull = false)
    (hv : v.conformsTo input = true) : v.HasType input := by
  have hvalue : input.isValueType = true := by
    rw [Ty.isValueType, ← Bool.not_or]
    exact congrArg not h
  exact ⟨hv, isWellFormed_of_isValueType hvalue hv⟩

namespace Propagates

/-- A receiver that is `null` has a type that tells so. -/
theorem acceptsNull_of_null (h : Propagates input nulls t t') (htyped : t'.Typed [input])
    {v : Value} (hv : v.conformsTo input = true) (hnull : evaluate t' [v] = .ok .null) :
    t'.ty.acceptsNull = true := by
  cases hi : input.acceptsNull with
  | true => exact h.acceptsNull hi
  | false =>
      have ho := evaluate_hasType htyped (.cons (hasType_of_conformsTo hi hv) .nil)
      rw [hnull] at ho
      cases ho with
      | ok hty => exact Value.null_hasType.1 hty

theorem after (h : Propagates input nulls t t') (htyped : t'.Typed [input]) (hn : t.ty ≠ .null)
    (hnulls : ∀ v, nulls' v ↔ evaluate t [v] = .ok .null ∨ nulls v) (l : Link) :
    Propagates input nulls' (l.after t false) (l.after t' (isConditional true t'.ty)) := by
  have hconditional := isConditional_of_ne_null (h.lifts.ne_null hn)
  refine ⟨?_, fun hi => ?_, fun v hv hnull => ?_, fun v hv hnull => ?_⟩
  · rw [l.after_ty, l.after_ty]
    cases isConditional true t'.ty with
    | true => exact Or.inr rfl
    | false => exact Or.inl rfl
  · rw [l.after_ty, hconditional, h.acceptsNull hi]
    exact Ty.acceptsNull_asNullable _
  · have hreceiver : evaluate t' [v] = .ok .null := by
      by_cases hbefore : nulls v
      · exact h.null v hv hbefore
      · rw [h.agree v hv hbefore]
        exact ((hnulls v).1 hnull).resolve_right hbefore
    rw [hconditional, h.acceptsNull_of_null htyped hv hreceiver]
    exact l.evaluate_after_null hreceiver
  · rw [hnulls, not_or] at hnull
    exact l.evaluate_after_congr _ (h.agree v hv hnull.2) hnull.1

end Propagates

/-! ### Chains -/

/-- What a link does to a receiver it does to the chain. -/
theorem exists_propagates_link (hc : catalog.Composed) {e r : Expr} {receiver c : Term}
    {access : Term → Bool → Typed Term} (hlinks : Links receiver.ty access)
    (he : e.receivers = r :: r.receivers) (hr : bindInput catalog r input = .ok receiver)
    (hn : receiver.ty ≠ .null)
    (ih : ∃ t', bind catalog r true [⟨itKey, input⟩] = .ok t' ∧
      Propagates input (r.MeetsNull catalog input) receiver t')
    (h : access receiver false = .ok c) :
    ∃ receiver' c', bind catalog r true [⟨itKey, input⟩] = .ok receiver' ∧
      access receiver' true = .ok c' ∧ Propagates input (e.MeetsNull catalog input) c c' := by
  obtain ⟨receiver', hr', hp⟩ := ih
  obtain ⟨l, rfl, hl⟩ := hlinks receiver c rfl h
  have htyped := (bind_typed hc r true [⟨itKey, input⟩]).of_eq_ok hr'
  exact ⟨receiver', _, hr', hl receiver' hp.lifts,
    hp.after htyped hn (fun v => Expr.meetsNull_iff he hr) l⟩

theorem exists_propagates (hc : catalog.Composed) {e : Expr} (he : e.IsChain catalog input)
    (ht : bindInput catalog e input = .ok t) :
    ∃ t', bind catalog e true [⟨itKey, input⟩] = .ok t' ∧
      Propagates input (e.MeetsNull catalog input) t t' := by
  induction he generalizing t with
  | it offset =>
      rw [bindInput, bind, bindIt_input] at ht
      cases ht
      refine ⟨.parameter 0 input, by rw [bind, bindIt_input], Or.inl rfl, id, ?_, fun _ _ _ => rfl⟩
      rintro v - ⟨r, hr, -⟩
      cases hr
  | @member r name h hr ih =>
      rw [bindInput, bind, h.symbol?_eq_none] at ht
      obtain ⟨receiver, hreceiver, ht⟩ := bind_eq_ok ht
      obtain ⟨hn, hname⟩ := hr.of_eq_ok hreceiver
      obtain ⟨receiver', c', hr', hc', hp⟩ := exists_propagates_link hc
        (bindProperty_links hn hname) (e := .member r name) rfl hreceiver hn (ih hreceiver) ht
      refine ⟨c', ?_, hp⟩
      rw [bind, h.symbol?_eq_none]
      dsimp only
      rw [hr']
      exact hc'
  | @index r arg offset h hr ih =>
      rw [bindInput, bind] at ht
      obtain ⟨receiver, hreceiver, ht⟩ := bind_eq_ok ht
      have hn := hr.of_eq_ok hreceiver
      obtain ⟨receiver', c', hr', hc', hp⟩ := exists_propagates_link hc
        (bindIndex_links hn (arguments catalog [arg]) offset) (e := .index r [arg] offset) rfl
        hreceiver hn (ih hreceiver) ht
      refine ⟨c', ?_, hp⟩
      rw [bind, hr']
      exact hc'
  | @call r name args offset h hr hname ih =>
      rw [bindInput, bind, h.symbol?_eq_none] at ht
      obtain ⟨receiver, hreceiver, ht⟩ := bind_eq_ok ht
      have hn := hr.of_eq_ok hreceiver
      obtain ⟨receiver', c', hr', hc', hp⟩ := exists_propagates_link hc
        (bindMethodCall_links hn hname (arguments_typed hc args))
        (e := .call (.member r name) args offset) rfl hreceiver hn (ih hreceiver) ht
      refine ⟨c', ?_, hp⟩
      rw [bind, h.symbol?_eq_none]
      dsimp only
      rw [hr']
      exact hc'

/-- A chain that has a type has one inside of `np(…)`, the same or the nullable type over it.  There
it is `null` for every input for which one of its receivers is, and for all others it has the same
outcome as outside. -/
theorem bindInput_nullPropagation (hc : catalog.Composed) {e : Expr}
    (he : e.IsChain catalog input) (ht : bindInput catalog e input = .ok t) (offset : Nat) :
    ∃ t', bindInput catalog (.nullPropagation e offset) input = .ok t' ∧
      (t'.ty = t.ty ∨ t'.ty = t.ty.asNullable) ∧
      ∀ v, v.conformsTo input = true →
        (e.MeetsNull catalog input v → evaluate t' [v] = .ok .null) ∧
        (¬e.MeetsNull catalog input v → evaluate t' [v] = evaluate t [v]) := by
  obtain ⟨t', ht', hp⟩ := exists_propagates hc he ht
  refine ⟨t', ?_, hp.lifts, fun v hv => ⟨hp.null v hv, hp.agree v hv⟩⟩
  rw [bindInput, bind]
  exact ht'

/-- The length of a name that may be missing, `it.Name.Length`. -/
theorem bindInput_nullPropagation_length : ∃ e T t t',
    e = .member (.member (.it 3) ⟨"Name", 6⟩) ⟨"Length", 11⟩ ∧
    T = .record [("Name", .string)] ∧ bindInput .standard e T = .ok t ∧
    bindInput .standard (.nullPropagation e 0) T = .ok t' ∧
    (t'.ty = t.ty ∨ t'.ty = t.ty.asNullable) ∧
    evaluate t' [.record [("Name", .string)] [.null]] = .ok .null ∧
    evaluate t' [.record [("Name", .string)] [.string "ab"]] =
      evaluate t [.record [("Name", .string)] [.string "ab"]] := by
  obtain ⟨T, hT⟩ : ∃ T : Ty, T = .record [("Name", .string)] := ⟨_, rfl⟩
  have hit : bindInput .standard (.it 3) T = .ok (.parameter 0 T) := bindIt_input 3 T
  have hname : bindInput .standard (.member (.it 3) ⟨"Name", 6⟩) T =
      .ok (.field (.parameter 0 T) 0 false .string) := by
    rw [hT]
    rfl
  have hlength : bindInput .standard (.member (.member (.it 3) ⟨"Name", 6⟩) ⟨"Length", 11⟩) T =
      .ok (.call .stringLength [.field (.parameter 0 T) 0 false .string] false .int32) := by
    rw [hT]
    rfl
  have hchain : (Expr.member (.member (.it 3) ⟨"Name", 6⟩) ⟨"Length", 11⟩).IsChain .standard T := by
    refine .member (.member (.it 3) ?_) ?_
    · rw [hit, hT]
      exact .ok ⟨nofun, nofun⟩
    · rw [hname]
      exact .ok ⟨nofun, nofun⟩
  obtain ⟨t', ht', hty, ho⟩ := bindInput_nullPropagation .standard hchain hlength 0
  refine ⟨_, T, _, t', rfl, hT, hlength, ht', hty, ?_, ?_⟩
  · refine (ho _ (by rw [hT]; rfl)).1 ⟨_, List.mem_cons_self, _, hname, ?_⟩
    rw [evaluate, evaluate]
    rfl
  · refine (ho _ (by rw [hT]; rfl)).2 ?_
    rintro ⟨r, hr, t, ht, hnull⟩
    rcases List.mem_cons.1 hr with rfl | hr
    · rw [hname] at ht
      cases ht
      rw [evaluate, evaluate] at hnull
      cases hnull
    · rw [List.mem_singleton.1 hr, hit] at ht
      cases ht
      rw [evaluate] at hnull
      cases hnull

end Typing

end Elementwise
