import Elementwise.Eval.Term
import Elementwise.Proofs.Calls
import Elementwise.Proofs.Simulation.Outcome
import Elementwise.Typing.Binding
import Mathlib.Data.List.Forall2
import Mathlib.Data.Option.Defs

/-!
Relations between terms that typing respects.  Typing decides by the types of terms and by nothing
else about them, constant patterns aside, and it builds terms with their constructors.  So if a
relation between terms keeps types and is respected by the constructors, then related terms are made
into related terms, or are refused alike.

The relations come in families, with one for every number of parameters that have come into scope on
the way to a term.  One of them relates terms of one type and of one outcome in certain environments.
-/

namespace Elementwise

open Eval

namespace Typing

/-- A call is refused for nothing but a constant pattern that is no regular expression. -/
theorem checkPattern_eq_ok_iff {b : Builtin} {args : List Term} {offset : Nat} :
    checkPattern b args offset = .ok () ↔
      ∀ t s ty ts, args = t :: .constant (.string s) ty :: ts → b.takesPattern = true →
        (Regex.compile? s).isSome = true := by
  unfold checkPattern
  split
  · rename_i t s ty ts
    cases hb : b.takesPattern with
    | false =>
        refine ⟨fun _ _ _ _ _ _ => nofun, fun _ => rfl⟩
    | true =>
        cases hs : Regex.compile? s with
        | none =>
            refine ⟨nofun, fun h => ?_⟩
            have hsome := h t s ty ts rfl rfl
            rw [hs] at hsome
            cases hsome
        | some p =>
            refine ⟨fun _ t' s' ty' ts' heq _ => ?_, fun _ => rfl⟩
            cases heq
            rw [hs]
            rfl
  · rename_i hargs
    exact ⟨fun _ t s ty ts heq => absurd heq (hargs t s ty ts), fun _ => rfl⟩

/-- A family of relations between terms of the same types that the constructors of terms respect.
Calls need respect the relations only if they call a function that is `offered`, as the members of
values are. -/
structure Congruence where
  rel : Nat → Term → Term → Prop
  offered : Builtin → Prop
  member {t : Ty} {b : Builtin} (h : t.Offers b) : offered b
  ty_eq {d : Nat} {t t' : Term} (h : rel d t t') : t'.ty = t.ty
  constant (d : Nat) (v : Value) (ty : Ty) : rel d (.constant v ty) (.constant v ty)
  item (d : Nat) (ty : Ty) : rel (d + 1) (.parameter 0 ty) (.parameter 0 ty)
  coerce {d : Nat} {t t' : Term} (c : Coercion) (ty : Ty) (h : rel d t t') :
    rel d (.coerce c t ty) (.coerce c t' ty)
  convert {d : Nat} {t t' : Term} (c : Conversion) (ty : Ty) (h : rel d t t') :
    rel d (.convert c t ty) (.convert c t' ty)
  unary {d : Nat} {t t' : Term} (op : UnaryOperator) (lifted : Bool) (ty : Ty) (h : rel d t t') :
    rel d (.unary op t lifted ty) (.unary op t' lifted ty)
  binary {d : Nat} {l l' r r' : Term} (op : Operation) (lifted : Bool) (ty : Ty)
    (hl : rel d l l') (hr : rel d r r') : rel d (.binary op l r lifted ty) (.binary op l' r' lifted ty)
  coalesce {d : Nat} {l l' r r' : Term} (ty : Ty) (hl : rel d l l') (hr : rel d r r') :
    rel d (.coalesce l r ty) (.coalesce l' r' ty)
  choice {d : Nat} {c c' t t' f f' : Term} (ty : Ty) (hc : rel d c c') (ht : rel d t t')
    (hf : rel d f f') : rel d (.choice c t f ty) (.choice c' t' f' ty)
  call {d : Nat} {b : Builtin} {args args' : List Term} (conditional : Bool) (ty : Ty)
    (hb : offered b) (h : List.Forall₂ (rel d) args args') :
    rel d (.call b args conditional ty) (.call b args' conditional ty)
  field {d : Nat} {t t' : Term} (i : Nat) (conditional : Bool) (ty : Ty) (h : rel d t t') :
    rel d (.field t i conditional ty) (.field t' i conditional ty)
  index {d : Nat} {t t' i i' : Term} (conditional : Bool) (ty : Ty) (h : rel d t t')
    (hi : rel d i i') : rel d (.index t i conditional ty) (.index t' i' conditional ty)
  query {d : Nat} {source source' : Term} {body body' : Option Term} {args args' : List Term}
    (q : Elementwise.Query) (conditional : Bool) (ty : Ty) (hs : rel d source source')
    (hb : Option.Rel (rel (d + 1)) body body') (ha : List.Forall₂ (rel d) args args') :
    rel d (.query q source body args conditional ty) (.query q source' body' args' conditional ty)
  array {d : Nat} {ts ts' : List Term} (ty : Ty) (h : List.Forall₂ (rel d) ts ts') :
    rel d (.array ts ty) (.array ts' ty)
  record {d : Nat} {ts ts' : List Term} (fields : List (String × Ty))
    (h : List.Forall₂ (rel d) ts ts') : rel d (.record fields ts) (.record fields ts')

namespace Congruence

variable {R : Congruence} {d : Nat} {t t' l l' r r' : Term}

theorem isNullLiteral_eq (h : R.rel d t t') : t'.isNullLiteral = t.isNullLiteral := by
  rw [Term.isNullLiteral, Term.isNullLiteral, R.ty_eq h]

/-- The congruence with the two sides exchanged. -/
def flip (R : Congruence) : Congruence where
  rel d t t' := R.rel d t' t
  offered := R.offered
  member := R.member
  ty_eq h := (R.ty_eq h).symm
  constant := R.constant
  item := R.item
  coerce c ty h := R.coerce c ty h
  convert c ty h := R.convert c ty h
  unary op lifted ty h := R.unary op lifted ty h
  binary op lifted ty hl hr := R.binary op lifted ty hl hr
  coalesce ty hl hr := R.coalesce ty hl hr
  choice ty hc ht hf := R.choice ty hc ht hf
  call conditional ty hb h := R.call conditional ty hb h.flip
  field i conditional ty h := R.field i conditional ty h
  index conditional ty h hi := R.index conditional ty h hi
  query q conditional ty hs hb ha := by
    refine R.query q conditional ty hs ?_ ha.flip
    cases hb with
    | none => exact .none
    | some hb => exact .some hb
  array ty h := R.array ty h.flip
  record fields h := R.record fields h.flip

/-! ### Conversions -/

theorem foldl_coerce (steps : List (Coercion × Ty)) (h : R.rel d t t') :
    R.rel d (steps.foldl (fun t (c, ty) => Term.coerce c t ty) t)
      (steps.foldl (fun t (c, ty) => Term.coerce c t ty) t') := by
  induction steps generalizing t t' with
  | nil => exact h
  | cons step steps ih => exact ih (R.coerce step.1 step.2 h)

theorem coerceTo?_rel (target : Ty) (h : R.rel d t t') :
    Option.Rel (R.rel d) (t.coerceTo? target) (t'.coerceTo? target) := by
  unfold Term.coerceTo?
  rw [R.ty_eq h]
  cases implicitSteps? t.ty target with
  | none => exact .none
  | some steps => exact .some (foldl_coerce steps h)

theorem convertScalar?_rel (source target : Ty) (lifted : Bool) (h : R.rel d t t') :
    Option.Rel (R.rel d) (t.convertScalar? source target lifted)
      (t'.convertScalar? source target lifted) := by
  unfold Term.convertScalar?
  dsimp only
  split
  · refine .some ?_
    split
    · exact R.convert _ _ h
    · exact R.convert _ _ (R.convert _ _ h)
  · exact .some (R.convert _ _ h)
  · exact .some (R.convert _ _ h)
  · exact .none

theorem convertTo_alike (target : Ty) (offset : Nat) (h : R.rel d t t') :
    Alike (R.rel d) (t.convertTo target offset) (t'.convertTo target offset) := by
  unfold Term.convertTo
  have hcoerce := coerceTo?_rel target h
  rw [R.ty_eq h]
  generalize t.coerceTo? target = c, t'.coerceTo? target = c' at hcoerce
  cases hcoerce with
  | some hc => exact .ok hc
  | none =>
      dsimp only
      split
      · exact .ok (R.convert _ _ h)
      -- the operand, unwrapped if it is nullable and the target is not
      have hoperand : R.rel d
          (if t.ty.isNullable && !target.isNullable then t.convert .unwrap t.ty.underlying else t)
          (if t.ty.isNullable && !target.isNullable then t'.convert .unwrap t.ty.underlying
            else t') := by
        split
        · exact R.convert _ _ h
        · exact h
      split
      · exact .ok hoperand
      generalize (if t.ty.isNullable && !target.isNullable then t.convert .unwrap t.ty.underlying
        else t) = operand, (if t.ty.isNullable && !target.isNullable then
        t'.convert .unwrap t.ty.underlying else t') = operand' at hoperand
      have hscalar := convertScalar?_rel t.ty.underlying target.underlying
        (t.ty.isNullable && target.isNullable) hoperand
      generalize operand.convertScalar? _ _ _ = s, operand'.convertScalar? _ _ _ = s' at hscalar
      cases hscalar with
      | none => exact .error
      | some hs =>
          refine .ok ?_
          split
          · exact R.coerce _ _ hs
          · exact hs

/-! ### Operators -/

theorem unary_alike (op : UnaryOperator) (offset : Nat) (h : R.rel d t t') :
    Alike (R.rel d) (Typing.unary op t offset) (Typing.unary op t' offset) := by
  unfold Typing.unary
  rw [R.ty_eq h]
  dsimp only
  cases unaryOperand? op t.ty.underlying with
  | none => exact .error
  | some target =>
      have hcoerce := coerceTo?_rel (liftTo target t.ty.isNullable) h
      simp only [Option.bind_eq_bind, Option.bind_some]
      generalize t.coerceTo? _ = c, t'.coerceTo? _ = c' at hcoerce
      cases hcoerce with
      | none => exact .error
      | some hc => exact .ok (R.unary op _ _ hc)

theorem numberOfDay_rel (h : R.rel d t t') : R.rel d (numberOfDay t) (numberOfDay t') := by
  unfold numberOfDay
  rw [R.ty_eq h]
  split
  · exact R.convert _ _ h
  · exact h

section Binary

variable (hl : R.rel d l l') (hr : R.rel d r r')
include hl hr

theorem coerceBoth_alike (target : Ty) :
    Alike (fun p p' => R.rel d p.1 p'.1 ∧ R.rel d p.2 p'.2) (coerceBoth l r target)
      (coerceBoth l' r' target) := by
  unfold coerceBoth
  have hcl := coerceTo?_rel target hl
  have hcr := coerceTo?_rel target hr
  generalize l.coerceTo? target = cl, l'.coerceTo? target = cl' at hcl
  generalize r.coerceTo? target = cr, r'.coerceTo? target = cr' at hcr
  cases hcl with
  | none => exact .error
  | some hcl =>
      cases hcr with
      | none => exact .error
      | some hcr => exact .ok ⟨hcl, hcr⟩

theorem arithmetic_alike (op : BinaryOperator) (lifted : Bool) (offset : Nat) :
    Alike (R.rel d) (arithmetic op l r lifted offset) (arithmetic op l' r' lifted offset) := by
  unfold arithmetic
  have hl := numberOfDay_rel hl
  have hr := numberOfDay_rel hr
  dsimp only
  rw [R.ty_eq hl, R.ty_eq hr]
  cases (promoteTypes? (numberOfDay l).ty.underlying (numberOfDay r).ty.underlying).join with
  | none => exact .error
  | some target =>
      have hboth := coerceBoth_alike hl hr (liftTo target lifted)
      dsimp only
      generalize coerceBoth (numberOfDay l) _ _ = b, coerceBoth (numberOfDay l') _ _ = b' at hboth
      cases hboth with
      | ok h => exact .ok (R.binary _ _ _ h.1 h.2)
      | error => exact .error

theorem comparison_alike (op : BinaryOperator) (target? : Option Ty) (lifted : Bool)
    (offset : Nat) :
    Alike (R.rel d) (comparison op l r target? lifted offset)
      (comparison op l' r' target? lifted offset) := by
  unfold comparison
  cases target? with
  | none => exact .error
  | some target =>
      have hboth := coerceBoth_alike hl hr (liftTo target lifted)
      dsimp only
      generalize coerceBoth l r _ = b, coerceBoth l' r' _ = b' at hboth
      cases hboth with
      | ok h => exact .ok (R.binary _ _ _ h.1 h.2)
      | error => exact .error

theorem nullTest_alike (op : BinaryOperator) (offset : Nat) :
    Alike (R.rel d) (nullTest op l r offset) (nullTest op l' r' offset) := by
  unfold nullTest
  rw [R.ty_eq hr]
  have hcoerce := coerceTo?_rel r.ty hl
  generalize l.coerceTo? r.ty = c, l'.coerceTo? r.ty = c' at hcoerce
  cases hcoerce with
  | none => exact .error
  | some hc => exact .ok (R.binary _ _ _ hr hc)

theorem equality_alike (op : BinaryOperator) (offset : Nat) :
    Alike (R.rel d) (equality op l r offset) (equality op l' r' offset) := by
  unfold equality
  rw [isNullLiteral_eq hl, isNullLiteral_eq hr, R.ty_eq hl, R.ty_eq hr]
  split
  · exact nullTest_alike hl hr op offset
  · split
    · exact nullTest_alike hr hl op offset
    · exact comparison_alike hl hr op _ _ offset

theorem additive_alike (op : BinaryOperator) (lifted : Bool) (offset : Nat) :
    Alike (R.rel d) (additive op l r lifted offset) (additive op l' r' lifted offset) := by
  unfold additive
  rw [R.ty_eq hl, R.ty_eq hr]
  cases temporal? op l.ty.underlying r.ty.underlying with
  | none => exact arithmetic_alike hl hr op lifted offset
  | some types =>
      obtain ⟨tl, tr, result⟩ := types
      have hcl := coerceTo?_rel (liftTo tl lifted) hl
      have hcr := coerceTo?_rel (liftTo tr lifted) hr
      dsimp only
      generalize l.coerceTo? _ = cl, l'.coerceTo? _ = cl' at hcl
      generalize r.coerceTo? _ = cr, r'.coerceTo? _ = cr' at hcr
      cases hcl with
      | none => exact .error
      | some hcl =>
          cases hcr with
          | none => exact .error
          | some hcr => exact .ok (R.binary _ _ _ hcl hcr)

theorem binary_alike (op : BinaryOperator) (offset : Nat) :
    Alike (R.rel d) (Typing.binary op l r offset) (Typing.binary op l' r' offset) := by
  unfold Typing.binary
  rw [R.ty_eq hl, R.ty_eq hr]
  cases op with
  | and | or =>
      dsimp only
      split
      · exact .ok (R.binary _ _ _ hl hr)
      · exact .error
  | equal | notEqual => exact equality_alike hl hr _ offset
  | lessThan | greaterThan | lessEqual | greaterEqual =>
      unfold relational
      rw [R.ty_eq hl, R.ty_eq hr]
      exact comparison_alike hl hr _ _ _ offset
  | add =>
      dsimp only
      split
      · exact .ok (R.binary _ _ _ hl hr)
      · exact additive_alike hl hr _ _ offset
  | subtract | multiply | divide | modulo | coalesce => exact additive_alike hl hr _ _ offset

theorem coalesce_alike (offset : Nat) :
    Alike (R.rel d) (Typing.coalesce l r offset) (Typing.coalesce l' r' offset) := by
  unfold Typing.coalesce
  rw [isNullLiteral_eq hl, R.ty_eq hl, R.ty_eq hr]
  split
  · exact .ok (R.coalesce _ hl hr)
  split
  · exact .error
  have hvalue := coerceTo?_rel l.ty.underlying hr
  have hsame := coerceTo?_rel l.ty hr
  have hleft := coerceTo?_rel r.ty hl
  generalize r.coerceTo? l.ty.underlying = v, r'.coerceTo? l.ty.underlying = v' at hvalue
  generalize r.coerceTo? l.ty = s, r'.coerceTo? l.ty = s' at hsame
  generalize l.coerceTo? r.ty = c, l'.coerceTo? r.ty = c' at hleft
  cases hvalue with
  | some hv => exact .ok (R.coalesce _ hl hv)
  | none =>
      cases hsame with
      | some hs => exact .ok (R.coalesce _ hl hs)
      | none =>
          cases hleft with
          | none => exact .error
          | some hc =>
              dsimp only
              split
              · exact .ok (R.coalesce _ hc hr)
              · exact .error

theorem unify_alike (offset : Nat) :
    Alike (fun p p' => R.rel d p.1 p'.1 ∧ R.rel d p.2 p'.2) (unify l r offset)
      (unify l' r' offset) := by
  unfold unify
  rw [isNullLiteral_eq hl, isNullLiteral_eq hr, R.ty_eq hl, R.ty_eq hr]
  have hright := coerceTo?_rel l.ty hr
  have hleft := coerceTo?_rel r.ty hl
  dsimp only
  generalize r.coerceTo? l.ty = cr, r'.coerceTo? l.ty = cr' at hright
  generalize l.coerceTo? r.ty = cl, l'.coerceTo? r.ty = cl' at hleft
  cases hright with
  | some hcr => exact .ok ⟨hl, hcr⟩
  | none =>
      cases hleft with
      | some hcl => exact .ok ⟨hcl, hr⟩
      | none =>
          dsimp only
          split
          · exact .error
          · rename_i target _
            have hboth := coerceBoth_alike hl hr target
            generalize coerceBoth l r target = b, coerceBoth l' r' target = b' at hboth
            cases hboth with
            | ok h => exact .ok h
            | error => exact .error

end Binary

/-! ### Overloads -/

variable {ts ts' : List Term}

theorem map_ty_eq (h : List.Forall₂ (R.rel d) ts ts') : ts'.map Term.ty = ts.map Term.ty := by
  induction h with
  | nil => rfl
  | cons h _ ih => rw [List.map_cons, List.map_cons, R.ty_eq h, ih]

theorem applies_eq (s : Signature) (h : List.Forall₂ (R.rel d) ts ts') :
    Overload.applies s ts' = Overload.applies s ts := by
  have hzip (ts : List Term) : Overload.applies s ts =
      (s.params.zip (ts.map Term.ty)).all fun p => isImplicit p.2 p.1 := by
    rw [Overload.applies, List.zip_map_right, List.all_map]
    rfl
  rw [hzip, hzip, map_ty_eq h]

theorem coerceAll_alike (offset : Nat) (params : List Ty) (h : List.Forall₂ (R.rel d) ts ts') :
    Alike (List.Forall₂ (R.rel d)) (Overload.coerceAll offset params ts)
      (Overload.coerceAll offset params ts') := by
  induction params generalizing ts ts' with
  | nil => exact .ok .nil
  | cons param params ih =>
      cases h with
      | nil => exact .ok .nil
      | @cons t t' ts ts' h hs =>
          have hcoerce := coerceTo?_rel param h
          unfold Overload.coerceAll
          generalize t.coerceTo? param = c, t'.coerceTo? param = c' at hcoerce
          cases hcoerce with
          | none => exact .error
          | some hc => exact (ih hs).map fun _ _ hargs => .cons hc hargs

theorem resolve_alike (overloads : List Signature) (name : Ident)
    (h : List.Forall₂ (R.rel d) ts ts') :
    Alike (fun call call' => call.1 ∈ overloads ∧ call'.1 = call.1 ∧
        List.Forall₂ (R.rel d) call.2 call'.2)
      (resolve overloads ts name) (resolve overloads ts' name) := by
  have happlies : (Overload.applies · ts') = (Overload.applies · ts) :=
    funext fun s => applies_eq s h
  unfold resolve
  rw [← h.length_eq, happlies, map_ty_eq h]
  dsimp only
  split
  · exact .error
  split
  · exact .error
  split
  · rename_i hs
    exact (coerceAll_alike _ _ h).map fun _ _ hargs => ⟨(mem_of_best_eq hs).1, rfl, hargs⟩
  · exact .error

end Congruence

/-! ### Terms of one outcome -/

/-- Terms of one type that have the same outcomes in the environments given, with any items of `n`
functions before them. -/
structure SameOutcome (envs : List Value → Prop) (n : Nat) (t t' : Term) : Prop where
  ty : t'.ty = t.ty
  evaluate (items env : List Value) (hn : items.length = n) (h : envs env) :
    evaluate t' (items ++ env) = evaluate t (items ++ env)

variable {envs : List Value → Prop} {n : Nat} {t t' : Term} {ts ts' : List Term}

theorem SameOutcome.refl (t : Term) : SameOutcome envs n t t :=
  ⟨rfl, fun _ _ _ _ => rfl⟩

theorem evaluateAll_eq (h : List.Forall₂ (SameOutcome envs n) ts ts') {items env : List Value}
    (hn : items.length = n) (henv : envs env) :
    evaluateAll ts' (items ++ env) = evaluateAll ts (items ++ env) := by
  induction h with
  | nil => rfl
  | cons h _ ih => rw [evaluateAll, evaluateAll, h.evaluate items env hn henv, ih]

theorem evaluateArguments_eq (conditional : Bool) (h : List.Forall₂ (SameOutcome envs n) ts ts')
    {items env : List Value} (hn : items.length = n) (henv : envs env) :
    evaluateArguments conditional ts' (items ++ env) =
      evaluateArguments conditional ts (items ++ env) := by
  cases h with
  | nil => rfl
  | cons h hs =>
      rw [evaluateArguments, evaluateArguments, h.evaluate items env hn henv,
        evaluateAll_eq hs hn henv]

/-- The constructors of terms respect types and outcomes. -/
def sameOutcome (envs : List Value → Prop) : Congruence where
  rel := SameOutcome envs
  offered _ := True
  member _ := trivial
  ty_eq h := h.ty
  constant _ _ _ := .refl _
  item _ _ := .refl _
  coerce _ _ h := ⟨rfl, fun items env hn henv => by
    rw [evaluate, evaluate, h.evaluate items env hn henv]⟩
  convert _ _ h := ⟨rfl, fun items env hn henv => by
    rw [evaluate, evaluate, h.evaluate items env hn henv]⟩
  unary _ _ _ h := ⟨rfl, fun items env hn henv => by
    rw [evaluate, evaluate, h.evaluate items env hn henv]⟩
  binary _ _ _ hl hr := ⟨rfl, fun items env hn henv => by
    rw [evaluate, evaluate, hl.evaluate items env hn henv, hr.evaluate items env hn henv]⟩
  coalesce _ hl hr := ⟨rfl, fun items env hn henv => by
    rw [evaluate, evaluate, hl.evaluate items env hn henv, hr.evaluate items env hn henv]⟩
  choice _ hc ht hf := ⟨rfl, fun items env hn henv => by
    rw [evaluate, evaluate, hc.evaluate items env hn henv, ht.evaluate items env hn henv,
      hf.evaluate items env hn henv]⟩
  call conditional _ _ h := ⟨rfl, fun items env hn henv => by
    rw [evaluate, evaluate, evaluateArguments_eq conditional h hn henv]⟩
  field _ _ _ h := ⟨rfl, fun items env hn henv => by
    rw [evaluate, evaluate, h.evaluate items env hn henv]⟩
  index _ _ h hi := ⟨rfl, fun items env hn henv => by
    rw [evaluate, evaluate, h.evaluate items env hn henv, hi.evaluate items env hn henv]⟩
  query _ _ _ hs hb ha := ⟨rfl, fun items env hn henv => by
    cases hb with
    | none => rw [evaluate, evaluate, hs.evaluate items env hn henv, evaluateAll_eq ha hn henv]
    | @some b b' hb =>
        have hbody (item : Value) :
            evaluate b' (item :: (items ++ env)) = evaluate b (item :: (items ++ env)) :=
          hb.evaluate (item :: items) env (by rw [List.length_cons, hn]) henv
        rw [evaluate, evaluate, hs.evaluate items env hn henv, evaluateAll_eq ha hn henv]
        simp only [hbody]⟩
  array _ h := ⟨rfl, fun items env hn henv => by
    rw [evaluate, evaluate, evaluateAll_eq h hn henv]⟩
  record _ h := ⟨rfl, fun items env hn henv => by
    rw [evaluate, evaluate, evaluateAll_eq h hn henv]⟩

end Typing

end Elementwise
