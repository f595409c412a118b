import Elementwise.Proofs.Outcome
import Elementwise.Proofs.Soundness.Term

/-!
Typing makes typed terms or fails; here for conversions, implicit and explicit, and for the overload
that a call resolves to, which takes the arguments that it is given.
-/

namespace Elementwise

open Number (NumericKind)

namespace Typing

variable {Γ : List Ty}

/-! ### Implicit conversions -/

/-- Steps that lead from one type to another, each made by its coercion. -/
inductive Steps : Ty → List (Coercion × Ty) → Ty → Prop where
  | nil {s : Ty} : Steps s [] s
  | cons {c : Coercion} {s t u : Ty} {steps : List (Coercion × Ty)} (h : c.Converts s t)
    (hs : Steps t steps u) : Steps s ((c, t) :: steps) u

theorem Steps.append {s t u : Ty} {steps₁ steps₂ : List (Coercion × Ty)} (h₁ : Steps s steps₁ t)
    (h₂ : Steps t steps₂ u) : Steps s (steps₁ ++ steps₂) u := by
  induction h₁ with
  | nil => exact h₂
  | cons h _ ih => exact .cons h (ih h₂)

theorem Steps.single {c : Coercion} {s t : Ty} (h : c.Converts s t) : Steps s [(c, t)] t :=
  .cons h .nil

theorem eq_numeric_of_numericKind? {t : Ty} {k : NumericKind} (h : t.numericKind? = some k) :
    t = .numeric k := by
  cases t with
  | numeric j =>
      cases h
      rfl
  | _ => cases h

/-- The implicit conversions, each with its steps: a value type comes to the nullable type over it
last, and the conversion of items is no step. -/
inductive Implicit : Ty → Ty → List (Coercion × Ty) → Prop where
  | same {t : Ty} : Implicit t t []
  | nullLiteral {t : Ty} (h : t.acceptsNull = true) : Implicit .null t [(.nullLiteral, t)]
  | box {s : Ty} : Implicit s .object [(.box, .object)]
  | numeric {j k : NumericKind} (h : j.widensTo k = true) (hne : j ≠ k) :
    Implicit (.numeric j) (.numeric k) [(.numeric k, .numeric k)]
  | liftedNumeric {j k : NumericKind} (h : j.widensTo k = true) (hne : j ≠ k) :
    Implicit (.nullable (.numeric j)) (.nullable (.numeric k))
      [(.liftedNumeric k, .nullable (.numeric k))]
  | wrap {s t : Ty} {steps : List (Coercion × Ty)} (hs : s.isValueType = true)
    (h : Implicit s t steps) : Implicit s (.nullable t) (steps ++ [(.wrap, .nullable t)])
  | upcast {s t : Ty} (hs : s.isReference = true) (h : isImplicit s t = true) :
    Implicit s t [(.upcast, t)]

theorem implicit_of_implicitSteps? {s t : Ty} {steps : List (Coercion × Ty)}
    (h : implicitSteps? s t = some steps) : Implicit s t steps := by
  have himplicit : isImplicit s t = true := by
    rw [isImplicit, h]
    rfl
  rw [implicitSteps?.eq_def] at h
  simp only at h
  by_cases heq : s = t
  · rw [if_pos heq] at h
    cases h
    exact heq ▸ .same
  rw [if_neg heq] at h
  by_cases hnull : s = .null
  · rw [if_pos hnull] at h
    split at h
    · cases h
      subst hnull
      exact .nullLiteral (by assumption)
    · cases h
  rw [if_neg hnull] at h
  by_cases hobj : t = .object
  · rw [if_pos hobj] at h
    cases h
    subst hobj
    exact .box
  rw [if_neg hobj] at h
  split at h
  · split at h
    · split at h
      · rename_i hj hk
        obtain rfl := eq_numeric_of_numericKind? hj
        obtain rfl := eq_numeric_of_numericKind? hk
        split at h
        · cases h
          exact .liftedNumeric (by assumption) fun hjk => heq (by rw [hjk])
        · cases h
      · cases h
    · split at h
      · obtain ⟨steps, hs, rfl⟩ := Option.map_eq_some_iff.1 h
        exact .wrap (by assumption) (implicit_of_implicitSteps? hs)
      · cases h
  · split at h
    · split at h
      · cases h
        exact .upcast rfl himplicit
      · cases h
    · cases h
  · split at h
    · split at h
      · cases h
        exact .upcast rfl himplicit
      · cases h
    · split at h
      · cases h
        exact .upcast rfl himplicit
      · cases h
    · cases h
  · split at h
    · rename_i hj hk
      obtain rfl := eq_numeric_of_numericKind? hj
      obtain rfl := eq_numeric_of_numericKind? hk
      split at h
      · cases h
        exact .numeric (by assumption) fun hjk => heq (by rw [hjk])
      · cases h
    · cases h
termination_by sizeOf t

theorem Implicit.steps {s t : Ty} {steps : List (Coercion × Ty)} (h : Implicit s t steps) :
    Steps s steps t := by
  induction h with
  | same => exact .nil
  | nullLiteral h => exact .single (.nullLiteral h)
  | box => exact .single .box
  | numeric => exact .single .numeric
  | liftedNumeric => exact .single .liftedNumeric
  | wrap _ _ ih => exact ih.append (.single .wrap)
  | upcast hs h => exact .single (.upcast hs h)

theorem steps_of_implicitSteps? {s t : Ty} {steps : List (Coercion × Ty)}
    (h : implicitSteps? s t = some steps) : Steps s steps t :=
  (implicit_of_implicitSteps? h).steps

theorem typed_of_steps {s t : Ty} {steps : List (Coercion × Ty)} (h : Steps s steps t)
    {term : Term} (ht : term.Typed Γ) (hty : term.ty = s) :
    (steps.foldl (fun t (c, ty) => Term.coerce c t ty) term).Typed Γ ∧
      (steps.foldl (fun t (c, ty) => Term.coerce c t ty) term).ty = t := by
  induction h generalizing term with
  | nil => exact ⟨ht, hty⟩
  | cons hc _ ih => exact ih (.coerce ht (hty ▸ hc)) rfl

theorem coerceTo?_typed {t t' : Term} {target : Ty} (ht : t.Typed Γ)
    (h : t.coerceTo? target = some t') : t'.Typed Γ ∧ t'.ty = target := by
  obtain ⟨steps, hs, rfl⟩ := Option.map_eq_some_iff.1 h
  exact typed_of_steps (steps_of_implicitSteps? hs) ht rfl

/-! ### Explicit conversions -/

theorem isNullable_underlying {t : Ty} (h : t.isNullable = true) : t = .nullable t.underlying := by
  cases t with
  | nullable t => rfl
  | _ => cases h

theorem underlying_of_isNullable_false {t : Ty} (h : t.isNullable = false) : t.underlying = t := by
  cases t with
  | nullable t => cases h
  | _ => rfl

/-- A value type is that of the value in it, lifted if it is nullable. -/
theorem eq_liftTo_underlying {t u : Ty} (h : t.underlying = u) (hu : u.isValueType = true) :
    t = liftTo u t.isNullable := by
  subst h
  cases hn : t.isNullable with
  | true =>
      rw [liftTo_true hu]
      exact isNullable_underlying hn
  | false => exact (underlying_of_isNullable_false hn).symm

theorem convertScalar?_typed {operand t : Term} {source target : Ty} {lifted : Bool}
    (ho : operand.Typed Γ) (hty : operand.ty = liftTo source lifted)
    (h : operand.convertScalar? source target lifted = some t) :
    t.Typed Γ ∧ t.ty = liftTo target lifted := by
  cases source with
  | dayOfWeek =>
      cases target with
      | numeric k =>
          have hn : (operand.convert (.ofDayOfWeek lifted) (liftTo .int32 lifted)).Typed Γ :=
            .convert ho ⟨hty, rfl⟩
          obtain rfl := Option.some.inj h
          by_cases hk : k = .word .int32
          · rw [if_pos hk, hk]
            exact ⟨hn, rfl⟩
          · rw [if_neg hk]
            exact ⟨.convert hn ⟨⟨_, rfl⟩, rfl⟩, rfl⟩
      | _ => cases h
  | numeric j =>
      cases target with
      | dayOfWeek | numeric k =>
          obtain rfl := Option.some.inj h
          exact ⟨.convert ho ⟨⟨j, hty⟩, rfl⟩, rfl⟩
      | _ => cases h
  | _ => cases h

/-- The types between which a conversion call converts numbers and days. -/
theorem isValueType_of_convertScalar? {operand t : Term} {source target : Ty} {lifted : Bool}
    (h : operand.convertScalar? source target lifted = some t) : source.isValueType = true := by
  cases source with
  | dayOfWeek | numeric j => rfl
  | _ => cases h

theorem convertTo_typed {t : Term} {target : Ty} {offset : Nat} (ht : t.Typed Γ) :
    Ensures (Term.Typed Γ) (t.convertTo target offset) := by
  unfold Term.convertTo
  split
  · rename_i h
    exact .ok (coerceTo?_typed ht h).1
  split
  · rename_i hobj
    exact .ok (.convert ht ⟨hobj, rfl⟩)
  have hoperand : (if t.ty.isNullable && !target.isNullable then t.convert .unwrap t.ty.underlying
      else t).Typed Γ := by
    split
    · rename_i hn
      rw [Bool.and_eq_true] at hn
      exact .convert ht (isNullable_underlying hn.1)
    · exact ht
  dsimp only
  split
  · exact .ok hoperand
  split
  · rename_i converted h
    have hs := isValueType_of_convertScalar? h
    have hty : (if t.ty.isNullable && !target.isNullable then t.convert .unwrap t.ty.underlying
        else t).ty = liftTo t.ty.underlying (t.ty.isNullable && target.isNullable) := by
      cases hn : t.ty.isNullable with
      | false => exact (underlying_of_isNullable_false hn).symm
      | true =>
          cases target.isNullable with
          | false => rfl
          | true => exact (isNullable_underlying hn).trans (liftTo_true hs).symm
    obtain ⟨hc, hcty⟩ := convertScalar?_typed hoperand hty h
    refine .ok ?_
    split
    · rename_i hw
      rw [Bool.and_eq_true, Bool.not_eq_true'] at hw
      rw [hw.2] at hcty
      refine .coerce hc ?_
      rw [isNullable_underlying hw.1, hcty]
      exact .wrap
    · exact hc
  · exact .error

/-! ### Overloads -/

/-- All terms of a list are typed, and their types are those given. -/
abbrev AllTyped (Γ : List Ty) (ts : List Term) : Prop :=
  ∀ t ∈ ts, t.Typed Γ

theorem coerceAll_typed {offset : Nat} {params : List Ty} {args : List Term}
    (hargs : AllTyped Γ args) (hlength : params.length = args.length) :
    Ensures (fun ts => AllTyped Γ ts ∧ ts.map Term.ty = params)
      (Overload.coerceAll offset params args) := by
  induction params generalizing args with
  | nil => exact .ok ⟨nofun, rfl⟩
  | cons param params ih =>
      cases args with
      | nil => cases hlength
      | cons arg args =>
          obtain ⟨harg, hargs⟩ := List.forall_mem_cons.1 hargs
          unfold Overload.coerceAll
          split
          · rename_i hc
            obtain ⟨ht, hty⟩ := coerceTo?_typed harg hc
            refine (ih hargs (Nat.succ.inj hlength)).map fun ts hts => ?_
            exact ⟨List.forall_mem_cons.2 ⟨ht, hts.1⟩, by rw [List.map_cons, hty, hts.2]⟩
          · exact .error

/-- An overload that was chosen is one of those given, with an argument for each parameter. -/
theorem mem_of_best_eq {overloads : List Signature} {args : List Term} {s : Signature}
    (h : Overload.best ((overloads.filter (·.params.length == args.length)).filter
      (Overload.applies · args)) = [s]) : s ∈ overloads ∧ s.params.length = args.length := by
  have hs : s ∈ Overload.best ((overloads.filter (·.params.length == args.length)).filter
      (Overload.applies · args)) := by
    rw [h]
    exact List.mem_singleton_self s
  have hs := List.mem_of_mem_filter (List.mem_of_mem_filter hs)
  rw [List.mem_filter, beq_iff_eq] at hs
  exact hs

/-- The overload that a call has, with the arguments it takes. -/
def Chosen (Γ : List Ty) (overloads : List Signature) (call : Signature × List Term) : Prop :=
  call.1 ∈ overloads ∧ AllTyped Γ call.2 ∧ call.2.map Term.ty = call.1.params

theorem resolve_typed {overloads : List Signature} {args : List Term} {name : Ident}
    (hargs : AllTyped Γ args) : Ensures (Chosen Γ overloads) (resolve overloads args name) := by
  unfold resolve
  dsimp only
  split
  · exact .error
  split
  · exact .error
  split
  · rename_i s hs
    obtain ⟨hmem, hlength⟩ := mem_of_best_eq hs
    exact (coerceAll_typed hargs hlength).map fun ts hts => ⟨hmem, hts⟩
  · exact .error

theorem overloadedCall_typed {overloads : List Signature} {args : List Term} {name : Ident}
    (hargs : AllTyped Γ args) :
    Ensures (Chosen Γ overloads) (overloadedCall overloads args name) := by
  refine (resolve_typed hargs).bind fun ⟨s, ts⟩ hcall => ?_
  exact (Ensures.trivial (checkPattern s.builtin ts name.offset)).bind fun _ _ => .ok hcall

end Typing

end Elementwise
