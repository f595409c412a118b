import Elementwise.Proofs.Convertible.Relation
import Elementwise.Proofs.Nullable.Operator
import Elementwise.Proofs.Soundness.Binding

/-!
A conditional and the one with the negated condition and the branches exchanged are the same.  Which
branch is tried first for the common type does not matter: if each branch converted to the type of the
other, both types would be the same, as implicit conversions are antisymmetric.
-/

namespace Elementwise

open Eval

namespace Typing

variable {catalog : Catalog} {scopes : List Scope} {input : Ty} {c a b : Expr}
  {condition whenTrue whenFalse t f t' f' : Term} {offset offset' : Nat}

/-! ### The types of the branches -/

theorem isImplicit_of_coerceTo? {target : Ty} (h : t.coerceTo? target = some t') :
    isImplicit t.ty target = true := by
  obtain ⟨steps, hsteps, -⟩ := Option.map_eq_some_iff.1 h
  rw [isImplicit, hsteps]
  rfl

/-- Branches of which each converts to the type of the other stay as they are. -/
theorem eq_of_coerceTo?_coerceTo? (hf : f.coerceTo? t.ty = some f')
    (ht : t.coerceTo? f.ty = some t') : t' = t ∧ f' = f := by
  have hty : t.ty = f.ty := isImplicit_antisymm (isImplicit_of_coerceTo? ht)
    (isImplicit_of_coerceTo? hf)
  rw [hty, coerceTo?_self] at hf
  rw [← hty, coerceTo?_self] at ht
  exact ⟨(Option.some.inj ht).symm, (Option.some.inj hf).symm⟩

theorem coerceBoth_swap {target : Ty} (h : coerceBoth t f target = .ok (t', f')) :
    coerceBoth f t target = .ok (f', t') :=
  coerceBoth_eq_ok_iff.2 (coerceBoth_eq_ok_iff.1 h).symm

/-- The nullable type of a branch if the other one is `null`. -/
def nullableTarget? (t f : Term) : Option Ty :=
  if t.isNullLiteral && f.ty.isValueType then some f.ty.asNullable
  else if f.isNullLiteral && t.ty.isValueType then some t.ty.asNullable
  else none

theorem isValueType_of_isNullLiteral (h : t.isNullLiteral = true) : t.ty.isValueType = false := by
  rw [of_decide_eq_true h]
  rfl

theorem nullableTarget?_swap (t f : Term) : nullableTarget? f t = nullableTarget? t f := by
  unfold nullableTarget?
  cases ht : t.isNullLiteral with
  | false => cases f.isNullLiteral && t.ty.isValueType <;> rfl
  | true =>
      rw [isValueType_of_isNullLiteral ht]
      cases f.isNullLiteral <;> rfl

theorem unify_of_none (ht : t.coerceTo? f.ty = none) (hf : f.coerceTo? t.ty = none) :
    unify t f offset = match nullableTarget? t f with
      | none => .error (.typeMismatch t.ty f.ty offset)
      | some target =>
        match coerceBoth t f target with
        | .ok branches => .ok branches
        | .error (t, f) => .error (.typeMismatch t f offset) := by
  rw [unify, ht, hf]
  rfl

theorem unify_swap (h : unify t f offset = .ok (t', f')) :
    unify f t offset' = .ok (f', t') := by
  cases hf : f.coerceTo? t.ty with
  | some f₁ =>
      rw [unify, hf] at h
      cases h
      cases ht : t.coerceTo? f.ty with
      | none => rw [unify, ht, hf]
      | some t₁ =>
          obtain ⟨rfl, rfl⟩ := eq_of_coerceTo?_coerceTo? hf ht
          rw [unify, ht]
  | none =>
      cases ht : t.coerceTo? f.ty with
      | some t₁ =>
          rw [unify, hf, ht] at h
          cases h
          rw [unify, ht]
      | none =>
          rw [unify_of_none ht hf] at h
          rw [unify_of_none hf ht, nullableTarget?_swap t f]
          split at h
          · cases h
          · split at h
            · rename_i hboth
              cases h
              rw [coerceBoth_swap hboth]
            · cases h

/-! ### Conditionals -/

/-- What a conditional on a condition of type Boolean binds to: the condition decides between the
branches in their common type. -/
theorem bind_conditional_eq_ok_iff {np : Bool} (hc : bind catalog c false scopes = .ok condition)
    (hty : condition.ty = .boolean) :
    bind catalog (.conditional c a b offset) np scopes = .ok t ↔
      ∃ l r l' r', bind catalog a false scopes = .ok l ∧ bind catalog b false scopes = .ok r ∧
        unify l r offset = .ok (l', r') ∧ t = .choice condition l' r' l'.ty := by
  rw [bind, hc, ok_bind, if_neg (not_not_intro hty)]
  constructor
  · intro h
    obtain ⟨l, hl, h⟩ := bind_eq_ok h
    obtain ⟨r, hr, h⟩ := bind_eq_ok h
    obtain ⟨⟨l', r'⟩, hunify, h⟩ := bind_eq_ok h
    exact ⟨l, r, l', r', hl, hr, hunify, (Except.ok.inj h).symm⟩
  · rintro ⟨l, r, l', r', hl, hr, hunify, rfl⟩
    rw [hl, ok_bind, hr, ok_bind, hunify, ok_bind]

theorem bind_not {np : Bool} (hc : bind catalog c false scopes = .ok condition)
    (hty : condition.ty = .boolean) :
    bind catalog (.unary .not c offset) np scopes = .ok (.unary .not condition false .boolean) := by
  have hself : condition.coerceTo? .boolean = some condition := hty ▸ coerceTo?_self condition
  rw [bind, hc, ok_bind, unary_eq_ok_iff, hty]
  exact ⟨.boolean, condition, rfl, hself, rfl⟩

/-- The conditional on the negated condition, with the branches exchanged, binds with it. -/
theorem bind_conditional_swap {np : Bool} {n m k : Nat}
    (hc : bind catalog c false scopes = .ok condition) (hty : condition.ty = .boolean)
    (h : bind catalog (.conditional c a b n) np scopes = .ok t) :
    ∃ l r, t = .choice condition l r l.ty ∧
      bind catalog (.conditional (.unary .not c m) b a k) np scopes =
        .ok (.choice (.unary .not condition false .boolean) r l r.ty) := by
  obtain ⟨l, r, l', r', hl, hr, hunify, rfl⟩ := (bind_conditional_eq_ok_iff hc hty).1 h
  refine ⟨l', r', rfl, (bind_conditional_eq_ok_iff (bind_not hc hty) rfl).2 ?_⟩
  exact ⟨r, l, r', l', hr, hl, unify_swap hunify, rfl⟩

/-- Conversely it binds only together with it. -/
theorem exists_bind_conditional {np : Bool} {n m k : Nat}
    (hc : bind catalog c false scopes = .ok condition) (hty : condition.ty = .boolean)
    (h : bind catalog (.conditional (.unary .not c m) b a k) np scopes = .ok t) :
    ∃ t', bind catalog (.conditional c a b n) np scopes = .ok t' := by
  obtain ⟨r, l, r', l', hr, hl, hunify, -⟩ :=
    (bind_conditional_eq_ok_iff (bind_not hc hty) rfl).1 h
  exact ⟨_, (bind_conditional_eq_ok_iff hc hty).2 ⟨l, r, l', r', hl, hr, unify_swap hunify, rfl⟩⟩

/-- The branches come out in one type. -/
theorem branches_ty {np : Bool} {l r : Term} (hcomposed : catalog.Composed)
    (h : bind catalog (.conditional c a b offset) np scopes = .ok (.choice condition l r l.ty)) :
    r.ty = l.ty := by
  cases (bind_typed hcomposed _ _ _).of_eq_ok h with
  | choice _ _ _ _ _ hty => exact hty

theorem evaluate_choice_not {env : List Value} {ty ty' : Ty}
    (h : ∀ v, evaluate condition env = .ok v → ∃ b, v = .boolean b) :
    evaluate (.choice (.unary .not condition false .boolean) f t ty') env =
      evaluate (.choice condition t f ty) env := by
  rw [evaluate, evaluate, evaluate]
  cases hcond : evaluate condition env with
  | error e => rfl
  | ok v =>
      obtain ⟨b, rfl⟩ := h v hcond
      cases b <;> rfl

/-- A condition that comes out as no Boolean value is an internal fault in both. -/
theorem evaluate_choice_not_internal {env : List Value} {ty ty' : Ty} {v : Value}
    (hcond : evaluate condition env = .ok v) (hv : ∀ b, v ≠ .boolean b) :
    ∃ reason reason',
      evaluate (.choice condition t f ty) env = .error (.internal reason) ∧
      evaluate (.choice (.unary .not condition false .boolean) f t ty') env =
        .error (.internal reason') := by
  rw [evaluate, evaluate, evaluate, hcond]
  cases v with
  | boolean b => exact absurd rfl (hv b)
  | _ => exact ⟨_, _, rfl, rfl⟩

/-- `iif(c, a, b)` and `iif(!c, b, a)` have a type together, and then the same one.  On every element
of the input type they have the same outcome; on a value that belies its record type the condition
may come out as no Boolean value, and then both have an internal fault. -/
theorem bindInput_conditional_not (hcomposed : catalog.Composed)
    (hc : bindInput catalog c input = .ok condition) (hty : condition.ty = .boolean)
    (a b : Expr) (n m k : Nat) :
    ((∃ t, bindInput catalog (.conditional c a b n) input = .ok t) ↔
      ∃ t', bindInput catalog (.conditional (.unary .not c m) b a k) input = .ok t') ∧
    ∀ t t', bindInput catalog (.conditional c a b n) input = .ok t →
      bindInput catalog (.conditional (.unary .not c m) b a k) input = .ok t' →
      t'.ty = t.ty ∧
      (∀ v : Value, v.HasType input → evaluate t' [v] = evaluate t [v]) ∧
      ∀ v : Value, evaluate t' [v] = evaluate t [v] ∨
        ∃ reason reason', evaluate t [v] = .error (.internal reason) ∧
          evaluate t' [v] = .error (.internal reason') := by
  refine ⟨⟨fun ⟨t, ht⟩ => ?_, fun ⟨t', ht'⟩ => exists_bind_conditional hc hty ht'⟩, ?_⟩
  · obtain ⟨l, r, -, hswap⟩ := bind_conditional_swap hc hty ht
    exact ⟨_, hswap⟩
  intro t t' ht ht'
  obtain ⟨l, r, rfl, hswap⟩ := bind_conditional_swap hc hty ht
  cases hswap.symm.trans ht'
  have hbranches : r.ty = l.ty := branches_ty hcomposed ht
  refine ⟨hbranches, fun v hv => evaluate_choice_not fun w hw => ?_, fun v => ?_⟩
  · have hcond : condition.Typed [input] := (bind_typed hcomposed c false _).of_eq_ok hc
    have hbool := evaluate_hasType hcond (.cons hv .nil)
    rw [hw, hty] at hbool
    cases hbool with
    | ok hw => exact Value.hasType_boolean.1 hw
  · by_cases h : ∀ w, evaluate condition [v] = .ok w → ∃ b, w = .boolean b
    · exact Or.inl (evaluate_choice_not h)
    · push Not at h
      obtain ⟨w, hw, hne⟩ := h
      exact Or.inr (evaluate_choice_not_internal hw hne)

/-- In `iif(it > 0, 1, null)` the branches are neither of one type nor convertible to each other. -/
theorem bindInput_conditional_not_null : ∃ c a t t',
    c = .binary .greaterThan (.it 4) (.literal (.number (.word .int32 (.wrap .int32 0)))) 7 ∧
    a = .literal (.number (.word .int32 (.wrap .int32 1))) ∧
    bindInput .standard (.conditional c a .null 0) .int32 = .ok t ∧
    bindInput .standard (.conditional (.unary .not c 4) .null a 0) .int32 = .ok t' ∧
    t.ty = .nullable .int32 ∧ t'.ty = t.ty ∧
    ∀ v : Value, v.HasType .int32 → evaluate t' [v] = evaluate t [v] := by
  obtain ⟨c, hc⟩ : ∃ c : Expr, c = .binary .greaterThan (.it 4)
    (.literal (.number (.word .int32 (.wrap .int32 0)))) 7 := ⟨_, rfl⟩
  obtain ⟨a, ha⟩ : ∃ a : Expr, a = .literal (.number (.word .int32 (.wrap .int32 1))) := ⟨_, rfl⟩
  have hcond : bindInput .standard c .int32 = .ok (.binary .greaterThan (.parameter 0 .int32)
      (.constant (.number (.word .int32 (.wrap .int32 0))) .int32) false .boolean) := by
    rw [hc]
    rfl
  have ht : ∃ t, bindInput .standard (.conditional c a .null 0) .int32 = .ok t ∧
      t.ty = .nullable .int32 := by
    rw [hc, ha]
    exact ⟨_, rfl, rfl⟩
  obtain ⟨t, ht, htype⟩ := ht
  obtain ⟨hiff, h⟩ := bindInput_conditional_not .standard hcond rfl a .null 0 4 0
  obtain ⟨t', ht'⟩ := hiff.1 ⟨t, ht⟩
  obtain ⟨hty, hv, -⟩ := h t t' ht ht'
  exact ⟨c, a, t, t', hc, ha, ht, ht', htype, hty, hv⟩

end Typing

end Elementwise
