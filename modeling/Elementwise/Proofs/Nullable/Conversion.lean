import Elementwise.Proofs.Simulation.Term
import Elementwise.Proofs.Soundness.Typing.Operator

/-!
A value type and the nullable type over it.  Where one typing has a value type and the other the
nullable type, the conversions that they make are different ones, but on values other than `null`
they lead to the same results.
-/

namespace Elementwise

open Eval
open Number (NumericKind)

namespace Typing

/-- Terms with the same outcomes wherever the parameters have values of their types. -/
def Agree (Γ : List Ty) (t t' : Term) : Prop :=
  ∀ env, List.Forall₂ Value.HasType env Γ → evaluate t' env = evaluate t env

/-- A term with the outcomes of another, and with its type or, if that is a value type, the nullable
type over it. -/
structure Lifts (Γ : List Ty) (t t' : Term) : Prop where
  ty : t'.ty = t.ty ∨ t.ty.isValueType = true ∧ t'.ty = .nullable t.ty
  agree : Agree Γ t t'

variable {Γ : List Ty} {t t' c : Term} {env : List Value}

theorem Agree.sameOutcome (h : Agree Γ t t') (hty : t'.ty = t.ty) :
    SameOutcome (List.Forall₂ Value.HasType · Γ) 0 t t' := by
  refine ⟨hty, fun items env hn henv => ?_⟩
  obtain rfl := List.eq_nil_of_length_eq_zero hn
  exact h env henv

theorem SameOutcome.agree (h : SameOutcome (List.Forall₂ Value.HasType · Γ) 0 t t') :
    Agree Γ t t' :=
  fun env henv => h.evaluate [] env rfl henv

theorem SameOutcome.lifts (h : SameOutcome (List.Forall₂ Value.HasType · Γ) 0 t t') :
    Lifts Γ t t' :=
  ⟨Or.inl h.ty, h.agree⟩

theorem exists_of_rel {α β : Type} {R : α → β → Prop} {o : Option α} {o' : Option β} {a : α}
    (h : Option.Rel R o o') (ha : o = some a) : ∃ b, o' = some b ∧ R a b := by
  subst ha
  cases h with
  | some h => exact ⟨_, rfl, h⟩

/-! ### Values that are there -/

theorem isNullable_of_isValueType {s : Ty} (h : s.isValueType = true) : s.isNullable = false := by
  rw [Ty.isValueType, Bool.and_eq_true, Bool.not_eq_true', Bool.not_eq_true'] at h
  exact h.2

theorem acceptsNull_of_isValueType {s : Ty} (h : s.isValueType = true) : s.acceptsNull = false := by
  rw [Ty.isValueType, Bool.and_eq_true, Bool.not_eq_true', Bool.not_eq_true'] at h
  rw [Ty.acceptsNull, h.1, h.2]
  rfl

/-- A term of a value type is never `null`. -/
theorem evaluate_ne_null (ht : t.Typed Γ) (hty : t.ty.isValueType = true)
    (henv : List.Forall₂ Value.HasType env Γ) : Yields (· ≠ .null) (evaluate t env) :=
  (evaluate_hasType ht henv).mono fun _ hv => hv.ne_null (acceptsNull_of_isValueType hty)

theorem bind_congr_of_yields {α β : Type} {P : α → Prop} {o : Except Fault α}
    {f g : α → Except Fault β} (ho : Yields P o) (h : ∀ a, P a → f a = g a) :
    (o >>= f) = o >>= g := by
  cases ho with
  | ok ha => exact h _ ha
  | error => rfl

theorem nonNull_eq {lifted : Bool} {v : Value} (hv : v ≠ .null) (f : Value → Outcome) :
    nonNull lifted v f = f v := by
  cases v with
  | null => exact absurd rfl hv
  | _ => rfl

/-! ### Steps of implicit conversions -/

/-- Makes the steps of a conversion, first to last. -/
def run : List (Coercion × Ty) → Value → Outcome
  | [], v => .ok v
  | (c, _) :: steps, v => coerce c v >>= run steps

theorem run_append (steps steps' : List (Coercion × Ty)) (v : Value) :
    run (steps ++ steps') v = run steps v >>= run steps' := by
  induction steps generalizing v with
  | nil => rfl
  | cons step steps ih =>
      rw [List.cons_append, run, run]
      cases coerce step.1 v with
      | error f => rfl
      | ok w => exact ih w

theorem run_append_wrap (steps : List (Coercion × Ty)) (ty : Ty) (v : Value) :
    run (steps ++ [(.wrap, ty)]) v = run steps v := by
  rw [run_append]
  cases run steps v <;> rfl

theorem evaluate_foldl_coerce (steps : List (Coercion × Ty)) (t : Term) (env : List Value) :
    evaluate (steps.foldl (fun t (c, ty) => Term.coerce c t ty) t) env =
      evaluate t env >>= run steps := by
  induction steps generalizing t with
  | nil =>
      rw [List.foldl_nil]
      cases evaluate t env <;> rfl
  | cons step steps ih =>
      rw [List.foldl_cons, ih, evaluate]
      cases evaluate t env <;> rfl

/-! ### Implicit conversions between value types -/

section Steps

variable {s w u : Ty} {steps : List (Coercion × Ty)}

/-- The kind that a number widens to where another type is expected. -/
def widening? (s t : Ty) : Option NumericKind :=
  match s.numericKind?, t.numericKind? with
  | some j, some k => if j.widensTo k then some k else none
  | _, _ => none

theorem eq_numeric_of_widening? {k : NumericKind} (h : widening? s w = some k) :
    (∃ j, s = .numeric j) ∧ w = .numeric k := by
  unfold widening? at h
  split at h
  · rename_i hj hk
    split at h
    · cases h
      exact ⟨⟨_, eq_numeric_of_numericKind? hj⟩, eq_numeric_of_numericKind? hk⟩
    · cases h
  · cases h

theorem steps_eq_map_widening? (s t target : Ty) (step : NumericKind → Coercion) :
    (match s.numericKind?, t.numericKind? with
      | some j, some k => if j.widensTo k then some [(step k, target)] else none
      | _, _ => none) = (widening? s t).map fun k => [(step k, target)] := by
  unfold widening?
  cases s.numericKind? with
  | none => rfl
  | some j =>
      cases t.numericKind? with
      | none => rfl
      | some k =>
          dsimp only
          split <;> rfl

theorem implicitSteps?_of_isValueType (hw : w.isValueType = true) :
    implicitSteps? s w =
      if s = w then some [] else (widening? s w).map fun k => [(.numeric k, w)] := by
  rw [implicitSteps?.eq_def]
  simp only [acceptsNull_of_isValueType hw]
  split
  · rfl
  cases w with
  | numeric k =>
      cases s with
      | numeric j => exact steps_eq_map_widening? (.numeric j) (.numeric k) _ .numeric
      | _ => rfl
  | boolean | dateTime | dateTimeOffset | timeSpan | guid | dayOfWeek => cases s <;> rfl
  | _ => cases hw

theorem implicitSteps?_nullable_nullable (s w : Ty) :
    implicitSteps? (.nullable s) (.nullable w) =
      if s = w then some [] else (widening? s w).map fun k => [(.liftedNumeric k, .nullable w)] := by
  rw [implicitSteps?.eq_def]
  simp only [Ty.nullable.injEq, reduceCtorEq, if_false]
  split
  · rfl
  · exact steps_eq_map_widening? s w _ .liftedNumeric

theorem implicitSteps?_nullable (hs : s.isValueType = true) (w : Ty) :
    implicitSteps? s (.nullable w) =
      (implicitSteps? s w).map (· ++ [(.wrap, .nullable w)]) := by
  rw [implicitSteps?.eq_def]
  cases s with
  | boolean | numeric | dateTime | dateTimeOffset | timeSpan | guid | dayOfWeek => rfl
  | _ => cases hs

theorem implicitSteps?_object (hs : s.isValueType = true ∨ s.isNullable = true) :
    implicitSteps? s .object = some [(.box, .object)] := by
  rw [implicitSteps?.eq_def]
  cases s with
  | null | object => rcases hs with hs | hs <;> cases hs
  | _ => rfl

/-- A nullable value is given up implicitly only as an object. -/
theorem implicitSteps?_eq_none (hw : w.isNullable = false) (hobj : w ≠ .object) :
    implicitSteps? (.nullable s) w = none := by
  rw [implicitSteps?.eq_def]
  simp only [hobj, reduceCtorEq, if_false]
  cases w with
  | nullable => cases hw
  | _ => rfl

/-- A value type is taken for no reference type but an object. -/
theorem implicitSteps?_reference (hs : s.isValueType = true) (hw : w.isReference = true)
    (hobj : w ≠ .object) : implicitSteps? s w = none := by
  rw [implicitSteps?.eq_def]
  cases w with
  | object => exact absurd rfl hobj
  | null | string | array | sequence | record => cases s <;> first | rfl | cases hs
  | _ => cases hw

/-- Nothing but value types converts implicitly to a value type. -/
theorem isValueType_of_implicitSteps? (hw : w.isValueType = true)
    (h : implicitSteps? s w = some steps) : s.isValueType = true := by
  rw [implicitSteps?_of_isValueType hw] at h
  split at h
  · rename_i hs
    exact hs ▸ hw
  · obtain ⟨k, hk, -⟩ := Option.map_eq_some_iff.1 h
    obtain ⟨⟨j, rfl⟩, -⟩ := eq_numeric_of_widening? hk
    rfl

/-- A value type that is taken for another type, and for no object or nullable, is a number that
widens. -/
theorem exists_eq_numeric_of_implicitSteps? (hs : s.isValueType = true)
    (hw : w.isNullable = false) (hobj : w ≠ .object) (hne : s ≠ w)
    (h : implicitSteps? s w = some steps) :
    ∃ j k, s = .numeric j ∧ w = .numeric k ∧ steps = [(.numeric k, w)] := by
  have hv : w.isValueType = true := by
    rw [Ty.isValueType, hw, Bool.not_false, Bool.and_true, Bool.not_eq_true', ← Bool.not_eq_true]
    intro href
    rw [implicitSteps?_reference hs href hobj] at h
    cases h
  rw [implicitSteps?_of_isValueType hv, if_neg hne] at h
  obtain ⟨k, hk, rfl⟩ := Option.map_eq_some_iff.1 h
  obtain ⟨⟨j, hj⟩, hw⟩ := eq_numeric_of_widening? hk
  exact ⟨j, k, hj, hw, rfl⟩

/-- Where there is a conversion between value types, there is one between the nullable types over
them, which does the same to a value that is there. -/
theorem implicitSteps?_lifted (hw : w.isValueType = true) (h : implicitSteps? s w = some steps) :
    ∃ steps', implicitSteps? (.nullable s) (.nullable w) = some steps' ∧
      ∀ v, v ≠ .null → run steps' v = run steps v := by
  rw [implicitSteps?_of_isValueType hw] at h
  rw [implicitSteps?_nullable_nullable]
  split at h
  · rename_i hs
    cases h
    exact ⟨[], if_pos hs, fun _ _ => rfl⟩
  · rename_i hs
    obtain ⟨k, hk, rfl⟩ := Option.map_eq_some_iff.1 h
    refine ⟨[(.liftedNumeric k, .nullable w)], by rw [if_neg hs, hk]; rfl, fun v hv => ?_⟩
    cases v with
    | null => exact absurd rfl hv
    | _ => rfl

theorem implicitSteps?_lifted_eq_none (hw : w.isValueType = true)
    (h : implicitSteps? s w = none) : implicitSteps? (.nullable s) (.nullable w) = none := by
  rw [implicitSteps?_of_isValueType hw] at h
  rw [implicitSteps?_nullable_nullable]
  split at h
  · cases h
  · rename_i hs
    rw [if_neg hs, Option.map_eq_none_iff.1 h]
    rfl

end Steps

/-! ### Terms that are converted implicitly -/

theorem exists_coerceTo? {target : Ty} {steps : List (Coercion × Ty)}
    (hs : implicitSteps? t.ty target = some steps) :
    ∃ c, t.coerceTo? target = some c ∧ ∀ env, evaluate c env = evaluate t env >>= run steps := by
  refine ⟨_, Option.map_eq_some_iff.2 ⟨steps, hs, rfl⟩, fun env => ?_⟩
  exact evaluate_foldl_coerce steps t env

theorem evaluate_coerceTo? {target : Ty} {steps : List (Coercion × Ty)}
    (hs : implicitSteps? t.ty target = some steps) (hc : t.coerceTo? target = some c) :
    evaluate c env = evaluate t env >>= run steps := by
  obtain ⟨c', hc', ho⟩ := exists_coerceTo? hs
  cases hc.symm.trans hc'
  exact ho env

theorem ty_of_steps {s u : Ty} {steps : List (Coercion × Ty)} (h : Steps s steps u)
    (hty : t.ty = s) : (steps.foldl (fun t (c, ty) => Term.coerce c t ty) t).ty = u := by
  induction h generalizing t with
  | nil => exact hty
  | cons _ _ ih => exact ih rfl

theorem coerceTo?_ty {target : Ty} (hc : t.coerceTo? target = some c) : c.ty = target := by
  obtain ⟨steps, hs, rfl⟩ := Option.map_eq_some_iff.1 hc
  exact ty_of_steps (steps_of_implicitSteps? hs) rfl

theorem bind_run_append_wrap {o : Outcome} {steps : List (Coercion × Ty)} {ty : Ty} :
    o >>= run (steps ++ [(.wrap, ty)]) = o >>= run steps :=
  congrArg _ (funext (run_append_wrap steps ty))

variable {w target : Ty} {lifted : Bool}

/-- A value type that is converted to a value type, or to the nullable type over it, is converted as
to the value type. -/
theorem exists_implicitSteps?_of_liftTo (hty : t.ty.isValueType = true)
    (hw : w.isValueType = true) (hc : t.coerceTo? (liftTo w lifted) = some c) :
    ∃ steps, implicitSteps? t.ty w = some steps ∧
      ∀ env, evaluate c env = evaluate t env >>= run steps := by
  obtain ⟨steps, hs, -⟩ := Option.map_eq_some_iff.1 hc
  cases lifted with
  | false => exact ⟨steps, hs, fun env => evaluate_coerceTo? hs hc⟩
  | true =>
      rw [liftTo_true hw] at hs hc
      obtain ⟨steps', hs', rfl⟩ := Option.map_eq_some_iff.1 ((implicitSteps?_nullable hty w) ▸ hs)
      exact ⟨steps', hs', fun env => (evaluate_coerceTo? hs hc).trans bind_run_append_wrap⟩

/-- What converts to a value type, or to the nullable type over it, converts to the nullable type
where it is lifted itself. -/
theorem Lifts.coerceTo?_nullable (h : Lifts Γ t t') (ht : t.Typed Γ) (hw : w.isValueType = true)
    (hc : t.coerceTo? (liftTo w lifted) = some c) :
    ∃ c', t'.coerceTo? (.nullable w) = some c' ∧ Agree Γ c c' := by
  rcases h.ty with hty' | ⟨hty, hty'⟩
  · cases lifted with
    | false =>
        obtain ⟨steps, hs, -⟩ := Option.map_eq_some_iff.1 hc
        have hs' := implicitSteps?_nullable (isValueType_of_implicitSteps? hw hs) w
        rw [show implicitSteps? t.ty w = some steps from hs, ← hty'] at hs'
        obtain ⟨c', hc', ho'⟩ := exists_coerceTo? hs'
        refine ⟨c', hc', fun env henv => ?_⟩
        calc
          evaluate c' env = evaluate t' env >>= run steps := (ho' env).trans bind_run_append_wrap
          _ = evaluate t env >>= run steps := by rw [h.agree env henv]
          _ = evaluate c env := (evaluate_coerceTo? hs hc).symm
    | true =>
        rw [liftTo_true hw] at hc
        have hrel := Congruence.coerceTo?_rel (R := sameOutcome _) (.nullable w)
          (h.agree.sameOutcome hty')
        obtain ⟨c', hc', hsame⟩ := exists_of_rel hrel hc
        exact ⟨c', hc', SameOutcome.agree hsame⟩
  · obtain ⟨steps, hs, hoc⟩ := exists_implicitSteps?_of_liftTo hty hw hc
    obtain ⟨steps', hs', hrun⟩ := implicitSteps?_lifted hw hs
    obtain ⟨c', hc', hoc'⟩ := exists_coerceTo? (hty'.symm ▸ hs')
    refine ⟨c', hc', fun env henv => ?_⟩
    calc
      evaluate c' env = evaluate t' env >>= run steps' := hoc' env
      _ = evaluate t env >>= run steps' := by rw [h.agree env henv]
      _ = evaluate t env >>= run steps :=
        bind_congr_of_yields (evaluate_ne_null ht hty henv) hrun
      _ = evaluate c env := (hoc env).symm

/-- What is taken for an object is taken for the same object where it is lifted. -/
theorem Lifts.coerceTo?_object (h : Lifts Γ t t') (hc : t.coerceTo? .object = some c) :
    ∃ c', t'.coerceTo? .object = some c' ∧ Agree Γ c c' := by
  rcases h.ty with hty' | ⟨hty, hty'⟩
  · have hrel := Congruence.coerceTo?_rel (R := sameOutcome _) .object (h.agree.sameOutcome hty')
    obtain ⟨c', hc', hsame⟩ := exists_of_rel hrel hc
    exact ⟨c', hc', SameOutcome.agree hsame⟩
  · have hs' := implicitSteps?_object (s := t'.ty) (Or.inr (hty' ▸ rfl))
    obtain ⟨c', hc', ho'⟩ := exists_coerceTo? hs'
    refine ⟨c', hc', fun env henv => ?_⟩
    calc
      evaluate c' env = evaluate t' env >>= run [(.box, .object)] := ho' env
      _ = evaluate t env >>= run [(.box, .object)] := by rw [h.agree env henv]
      _ = evaluate c env := (evaluate_coerceTo? (implicitSteps?_object (Or.inl hty)) hc).symm

/-! ### Explicit conversions -/

/-- Conversions that do the same to every value that is there agree on terms of a value type. -/
theorem Agree.convert {k k' : Conversion} (h : Agree Γ t t') (ht : t.Typed Γ)
    (hty : t.ty.isValueType = true) (hk : ∀ v, v ≠ .null → convertBy k' v = convertBy k v)
    (ty ty' : Ty) : Agree Γ (.convert k t ty) (.convert k' t' ty') := by
  intro env henv
  rw [evaluate, evaluate, h env henv]
  exact bind_congr_of_yields (evaluate_ne_null ht hty henv) hk

theorem convertScalar?_lifted {s u : Ty} (h : Agree Γ t t') (ht : t.Typed Γ) (hty : t.ty = s)
    (hc : t.convertScalar? s u false = some c) :
    ∃ c', t'.convertScalar? s u true = some c' ∧ c'.ty = .nullable u ∧ Agree Γ c c' := by
  cases s with
  | dayOfWeek =>
      cases u with
      | numeric k =>
          have hnumber (ty' : Ty) : Agree Γ (t.convert (.ofDayOfWeek false) .int32)
              (t'.convert (.ofDayOfWeek true) ty') :=
            h.convert ht (hty ▸ rfl) (fun v hv => by simp only [convertBy, nonNull_eq hv]) _ _
          obtain rfl := Option.some.inj hc
          refine ⟨_, rfl, ?_⟩
          by_cases hk : k = .word .int32
          · rw [if_pos hk, if_pos hk, hk]
            exact ⟨rfl, hnumber _⟩
          · rw [if_neg hk, if_neg hk]
            refine ⟨rfl, (hnumber _).convert (.convert ht ⟨hty, rfl⟩) rfl (fun v hv => ?_) _ _⟩
            simp only [convertBy, nonNull_eq hv]
      | _ => cases hc
  | numeric j =>
      cases u with
      | dayOfWeek | numeric k =>
          obtain rfl := Option.some.inj hc
          refine ⟨_, rfl, rfl, h.convert ht (hty ▸ rfl) (fun v hv => ?_) _ _⟩
          simp only [convertBy, nonNull_eq hv]
      | _ => cases hc
  | _ => cases hc

theorem Agree.unwrap (h : Agree Γ t t') (ht : t.Typed Γ) (hty : t.ty.isValueType = true) :
    Agree Γ t (t'.convert .unwrap t.ty) := by
  intro env henv
  have hpass (v : Value) (hv : v ≠ .null) : convertBy .unwrap v = .ok v := nonNull_eq hv .ok
  calc
    evaluate (t'.convert .unwrap t.ty) env = evaluate t env >>= convertBy .unwrap := by
      rw [evaluate, h env henv]
    _ = evaluate t env >>= .ok := bind_congr_of_yields (evaluate_ne_null ht hty henv) hpass
    _ = evaluate t env := bind_pure _

theorem convertTo_of_coerceTo? (hc : t.coerceTo? target = some c) (offset : Nat) :
    t.convertTo target offset = .ok c := by
  rw [Term.convertTo, hc]

theorem coerceTo?_self (t : Term) : t.coerceTo? t.ty = some t := by
  rw [Term.coerceTo?, implicitSteps?.eq_def, if_pos rfl]
  rfl

theorem coerceTo?_nullable_self (hty : t.ty.isValueType = true) :
    t.coerceTo? (.nullable t.ty) = some (.coerce .wrap t (.nullable t.ty)) := by
  rw [Term.coerceTo?, implicitSteps?_nullable hty, implicitSteps?_of_isValueType hty, if_pos rfl]
  rfl

/-- A value type is converted implicitly if possible, and else as a number or a day of the week. -/
theorem convertTo_cases {offset : Nat} (hty : t.ty.isValueType = true)
    (hc : t.convertTo target offset = .ok c) :
    t.coerceTo? target = some c ∨ t.coerceTo? target = none ∧ t.ty ≠ target.underlying ∧
      ∃ c₀, t.convertScalar? t.ty target.underlying false = some c₀ ∧
        c = if target.isNullable then c₀.coerce .wrap target else c₀ := by
  have hplain := isNullable_of_isValueType hty
  have hobj : t.ty ≠ .object := by
    intro hobj
    rw [hobj] at hty
    cases hty
  unfold Term.convertTo at hc
  cases hcoerce : t.coerceTo? target with
  | some c₀ =>
      rw [hcoerce] at hc
      cases hc
      exact Or.inl rfl
  | none =>
      have hne : t.ty ≠ target.underlying := by
        intro heq
        rcases eq_underlying_or_nullable target with hw | hw
        · rw [hw, ← heq, coerceTo?_self t] at hcoerce
          cases hcoerce
        · rw [hw, ← heq, coerceTo?_nullable_self hty] at hcoerce
          cases hcoerce
      refine Or.inr ⟨rfl, hne, ?_⟩
      simp only [hcoerce, if_neg hobj, hplain, underlying_of_isNullable_false hplain,
        Bool.false_and, Bool.false_eq_true, if_false, if_neg hne, Bool.not_false,
        Bool.and_true] at hc
      split at hc
      · rename_i c₀ hscalar
        cases hc
        exact ⟨c₀, hscalar, rfl⟩
      · cases hc

section Nullable

variable {s : Ty} (hty : t.ty = .nullable s)
include hty

/-- A nullable value is unwrapped to be converted to a type that is not nullable. -/
theorem convertTo_of_unwrap (hw : target.isNullable = false) (hobj : target ≠ .object)
    (hc : s = target ∧ c = t.convert .unwrap s ∨
      s ≠ target ∧ (t.convert .unwrap s).convertScalar? s target false = some c) (offset : Nat) :
    t.convertTo target offset = .ok c := by
  have hnone : t.coerceTo? target = none := by
    rw [Term.coerceTo?, hty, implicitSteps?_eq_none hw hobj]
    rfl
  unfold Term.convertTo
  rw [hnone, hty, hw, underlying_of_isNullable_false hw]
  rcases hc with ⟨heq, rfl⟩ | ⟨hne, hscalar⟩
  · exact if_pos heq
  · refine (if_neg hne).trans ?_
    have hunwrapped : (if (Ty.nullable s).isNullable && !false then
        t.convert .unwrap (Ty.nullable s).underlying else t).convertScalar?
        (Ty.nullable s).underlying target ((Ty.nullable s).isNullable && false) = some c := hscalar
    rw [hunwrapped]
    rfl

/-- A nullable value stays nullable where it is converted to a nullable type. -/
theorem convertTo_of_lifted (hnone : t.coerceTo? (.nullable w) = none) (hne : s ≠ w)
    (hc : t.convertScalar? s w true = some c) (offset : Nat) :
    t.convertTo (.nullable w) offset = .ok c := by
  unfold Term.convertTo
  rw [hnone, hty]
  refine (if_neg hne).trans ?_
  have hlifted : (if (Ty.nullable s).isNullable && !(Ty.nullable w).isNullable then
      t.convert .unwrap (Ty.nullable s).underlying else t).convertScalar? (Ty.nullable s).underlying
      (Ty.nullable w).underlying ((Ty.nullable s).isNullable && (Ty.nullable w).isNullable) =
      some c := hc
  rw [hlifted]
  rfl

end Nullable

section ConvertTo

variable {offset : Nat} (h : Agree Γ t t') (ht : t.Typed Γ) (hty : t.ty.isValueType = true)
  (hty' : t'.ty = .nullable t.ty)
include h ht hty hty'

/-- What a value type converts to implicitly, if it is not nullable, its nullable type is unwrapped
to convert to. -/
theorem convertTo_unwrapped_of_coerceTo? (hw : target.isNullable = false)
    (hc : t.coerceTo? target = some c) :
    ∃ c', t'.convertTo target offset = .ok c' ∧ c'.ty = c.ty ∧ Agree Γ c c' := by
  have hunwrap := h.unwrap ht hty
  by_cases hobj : target = .object
  · subst hobj
    obtain ⟨c', hc', hagree⟩ := Lifts.coerceTo?_object ⟨Or.inr ⟨hty, hty'⟩, h⟩ hc
    exact ⟨c', convertTo_of_coerceTo? hc' offset, (coerceTo?_ty hc').trans (coerceTo?_ty hc).symm,
      hagree⟩
  by_cases heq : t.ty = target
  · subst heq
    cases (coerceTo?_self t).symm.trans hc
    exact ⟨_, convertTo_of_unwrap hty' hw hobj (Or.inl ⟨rfl, rfl⟩) offset, rfl, hunwrap⟩
  -- a number that widens implicitly is converted explicitly once it is unwrapped
  obtain ⟨steps, hs, -⟩ := Option.map_eq_some_iff.1 hc
  obtain ⟨j, k, hj, rfl, rfl⟩ := exists_eq_numeric_of_implicitSteps? hty hw hobj heq hs
  refine ⟨(t'.convert .unwrap t.ty).convert (.numeric k false) (.numeric k),
    convertTo_of_unwrap hty' hw hobj (Or.inr ⟨heq, ?_⟩) offset, (coerceTo?_ty hc).symm,
    fun env henv => ?_⟩
  · rw [hj]
    rfl
  · have hcast (v : Value) (hv : v ≠ .null) :
        convertBy (.numeric k false) v = run [(.numeric k, .numeric k)] v := by
      rw [convertBy, nonNull_eq hv]
      exact (bind_pure _).symm
    rw [evaluate_coerceTo? hs hc, evaluate, hunwrap env henv]
    exact bind_congr_of_yields (evaluate_ne_null ht hty henv) hcast

theorem convertTo_unwrapped (hw : target.isNullable = false)
    (hc : t.convertTo target offset = .ok c) :
    ∃ c', t'.convertTo target offset = .ok c' ∧ c'.ty = c.ty ∧ Agree Γ c c' := by
  rcases convertTo_cases hty hc with hcoerce | ⟨hnone, hne, c₀, hscalar, rfl⟩
  · exact convertTo_unwrapped_of_coerceTo? h ht hty hty' hw hcoerce
  have hobj : target ≠ .object := by
    rintro rfl
    rw [Term.coerceTo?, implicitSteps?_object (Or.inl hty)] at hnone
    cases hnone
  rw [underlying_of_isNullable_false hw] at hne hscalar
  rw [hw, if_neg Bool.false_ne_true]
  have hunwrap := (h.unwrap ht hty).sameOutcome rfl
  have hrel := Congruence.convertScalar?_rel (R := sameOutcome _) t.ty target false hunwrap
  obtain ⟨c', hc', hsame⟩ := exists_of_rel hrel hscalar
  exact ⟨c', convertTo_of_unwrap hty' hw hobj (Or.inr ⟨hne, hc'⟩) offset, SameOutcome.ty hsame,
    SameOutcome.agree hsame⟩

theorem convertTo_lifted (hw : w.isValueType = true)
    (hc : t.convertTo (.nullable w) offset = .ok c) :
    ∃ c', t'.convertTo (.nullable w) offset = .ok c' ∧ c'.ty = c.ty ∧ Agree Γ c c' := by
  rcases convertTo_cases hty hc with hcoerce | ⟨hnone, hne, c₀, hscalar, rfl⟩
  · rw [← liftTo_true hw] at hcoerce
    obtain ⟨c', hc', hagree⟩ := Lifts.coerceTo?_nullable ⟨Or.inr ⟨hty, hty'⟩, h⟩ ht hw hcoerce
    rw [liftTo_true hw] at hcoerce
    exact ⟨c', convertTo_of_coerceTo? hc' offset,
      (coerceTo?_ty hc').trans (coerceTo?_ty hcoerce).symm, hagree⟩
  have hnone' : t'.coerceTo? (.nullable w) = none := by
    rw [Term.coerceTo?, implicitSteps?_nullable hty, Option.map_eq_none_iff,
      Option.map_eq_none_iff] at hnone
    rw [Term.coerceTo?, hty', implicitSteps?_lifted_eq_none hw hnone]
    rfl
  obtain ⟨c', hc', hcty, hagree⟩ := convertScalar?_lifted h ht rfl hscalar
  refine ⟨c', convertTo_of_lifted hty' hnone' hne hc' offset, hcty, fun env henv => ?_⟩
  rw [Ty.isNullable, if_pos rfl, evaluate, hagree env henv]
  exact (bind_pure _).symm

end ConvertTo

/-- Conversion calls respect lifting. -/
theorem Lifts.convertTo {offset : Nat} (h : Lifts Γ t t') (ht : t.Typed Γ)
    (hw : target.isNullable = true → target.underlying.isValueType = true)
    (hc : t.convertTo target offset = .ok c) :
    ∃ c', t'.convertTo target offset = .ok c' ∧ Lifts Γ c c' := by
  rcases h.ty with hty' | ⟨hty, hty'⟩
  · have halike := Congruence.convertTo_alike (R := sameOutcome _) target offset
      (h.agree.sameOutcome hty')
    obtain ⟨c', hc', hrel⟩ := halike.exists_of_eq_ok hc
    exact ⟨c', hc', SameOutcome.lifts hrel⟩
  · cases hn : target.isNullable with
    | false =>
        obtain ⟨c', hc', hcty, hagree⟩ := convertTo_unwrapped h.agree ht hty hty' hn hc
        exact ⟨c', hc', Or.inl hcty, hagree⟩
    | true =>
        have hv := hw hn
        rw [isNullable_underlying hn] at hc ⊢
        obtain ⟨c', hc', hcty, hagree⟩ := convertTo_lifted h.agree ht hty hty' hv hc
        exact ⟨c', hc', Or.inl hcty, hagree⟩

end Typing

end Elementwise
