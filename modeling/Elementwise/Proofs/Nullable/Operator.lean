import Elementwise.Proofs.Nullable.Conversion

/-!
Operators where operands get nullable.  The operator is lifted then, and its operands meet in the
nullable type; on operands that are there it does what the plain operator does.
-/

namespace Elementwise

open Eval

namespace Typing

variable {Γ : List Ty} {t t' c l l' r r' : Term} {w wl wr : Ty} {lifted : Bool} {offset : Nat}

/-! ### Types under lifting -/

namespace Lifts

theorem of_liftTo (hw : w.isValueType = true) (hty : t.ty = liftTo w lifted)
    (hty' : t'.ty = .nullable w) (h : Agree Γ t t') : Lifts Γ t t' := by
  refine ⟨?_, h⟩
  cases lifted with
  | false =>
      obtain rfl : t.ty = w := hty
      exact Or.inr ⟨hw, hty'⟩
  | true =>
      rw [liftTo_true hw] at hty
      exact Or.inl (hty'.trans hty.symm)

theorem underlying_eq (h : Lifts Γ t t') : t'.ty.underlying = t.ty.underlying := by
  rcases h.ty with hty | ⟨hv, hty⟩
  · rw [hty]
  · rw [hty, underlying_of_isNullable_false (isNullable_of_isValueType hv)]
    rfl

/-- Only value types change. -/
theorem ty_eq_iff (h : Lifts Γ t t') (hw : w.isReference = true) : t'.ty = w ↔ t.ty = w := by
  rcases h.ty with hty | ⟨hv, hty⟩
  · rw [hty]
  · refine ⟨fun heq => ?_, fun heq => ?_⟩
    · rw [← heq, hty] at hw
      cases hw
    · rw [heq, Ty.isValueType, hw] at hv
      cases hv

theorem isNullLiteral_eq (h : Lifts Γ t t') : t'.isNullLiteral = t.isNullLiteral :=
  decide_eq_decide.2 (h.ty_eq_iff rfl)

/-- A type that changes is a value type and gets nullable. -/
theorem of_ty_ne (h : Lifts Γ t t') (hne : t'.ty ≠ t.ty) :
    t.ty.isValueType = true ∧ t'.ty.isNullable = true := by
  obtain ⟨hv, hty⟩ := h.ty.resolve_left hne
  exact ⟨hv, by rw [hty]; rfl⟩

end Lifts

/-! ### Operators on values that are there -/

theorem isNull_of_ne_null {v : Value} (hv : v ≠ .null) : v.isNull = false := by
  cases v with
  | null => exact absurd rfl hv
  | _ => rfl

theorem unaryOn_of_ne_null {v : Value} (hv : v ≠ .null) (op : UnaryOperator) (lifted : Bool) :
    unaryOn op lifted v = unaryOn op false v := by
  rw [unaryOn, unaryOn, isNull_of_ne_null hv, Bool.and_false, Bool.and_false]

theorem binaryOn_of_ne_null {v v' : Value} (hv : v ≠ .null) (hv' : v' ≠ .null) (op : Operation)
    (lifted : Bool) : binaryOn op lifted v v' = binaryOn op false v v' := by
  unfold binaryOn
  rw [isNull_of_ne_null hv, isNull_of_ne_null hv', Bool.or_false, Bool.and_false, Bool.and_false]

theorem evaluate_binary {op : Operation} (hand : op ≠ .and) (hor : op ≠ .or) (l r : Term)
    (lifted : Bool) (ty : Ty) (env : List Value) :
    evaluate (.binary op l r lifted ty) env =
      evaluate l env >>= fun v => evaluate r env >>= binaryOn op lifted v := by
  rw [evaluate]
  cases evaluate l env with
  | error f => rfl
  | ok v =>
      cases op with
      | and => exact absurd rfl hand
      | or => exact absurd rfl hor
      | _ => rfl

theorem Agree.binary (hl : Agree Γ l l') (hr : Agree Γ r r') (op : Operation) (lifted : Bool)
    (ty ty' : Ty) : Agree Γ (.binary op l r lifted ty) (.binary op l' r' lifted ty') := by
  intro env henv
  rw [evaluate, evaluate, hl env henv, hr env henv]

/-- Lifting an operator does nothing on operands of value types, and a lifted operator stays so. -/
theorem Agree.binary_lifted {op : Operation} (hl : Agree Γ l l') (hr : Agree Γ r r')
    (hlt : l.Typed Γ) (hrt : r.Typed Γ) (hwl : wl.isValueType = true) (hwr : wr.isValueType = true)
    (hlty : l.ty = liftTo wl lifted) (hrty : r.ty = liftTo wr lifted) (hand : op ≠ .and)
    (hor : op ≠ .or) (ty ty' : Ty) :
    Agree Γ (.binary op l r lifted ty) (.binary op l' r' true ty') := by
  cases lifted with
  | true => exact hl.binary hr op true ty ty'
  | false =>
      intro env henv
      have hv := evaluate_ne_null hlt (hlty ▸ hwl) henv
      have hv' := evaluate_ne_null hrt (hrty ▸ hwr) henv
      calc
        evaluate (.binary op l' r' true ty') env =
            evaluate l env >>= fun v => evaluate r env >>= binaryOn op true v := by
          rw [evaluate_binary hand hor, hl env henv, hr env henv]
        _ = evaluate l env >>= fun v => evaluate r env >>= binaryOn op false v :=
          bind_congr_of_yields hv fun v hv => bind_congr_of_yields hv' fun v' hv' =>
            binaryOn_of_ne_null hv hv' op true
        _ = evaluate (.binary op l r false ty) env := (evaluate_binary hand hor ..).symm

/-! ### Prefix operators -/

theorem unary_eq_ok_iff {op : UnaryOperator} :
    Typing.unary op t offset = .ok c ↔ ∃ w c₀, unaryOperand? op t.ty.underlying = some w ∧
      t.coerceTo? (liftTo w t.ty.isNullable) = some c₀ ∧
      c = .unary op c₀ t.ty.isNullable (liftTo w t.ty.isNullable) := by
  unfold Typing.unary
  dsimp only
  constructor
  · intro hc
    split at hc
    · rename_i hconverted
      cases hc
      obtain ⟨w, hw, hconverted⟩ := Option.bind_eq_some_iff.1 hconverted
      obtain ⟨c₀, hc₀, hc⟩ := Option.bind_eq_some_iff.1 hconverted
      exact ⟨w, c₀, hw, hc₀, (Option.some.inj hc).symm⟩
    · cases hc
  · rintro ⟨w, c₀, hw, hc₀, rfl⟩
    rw [hw]
    simp only [Option.bind_eq_bind, Option.bind_some, hc₀]

theorem unaryOperand?_isValueType {op : UnaryOperator} {s : Ty}
    (h : unaryOperand? op s = some w) : w.isValueType = true := by
  unfold unaryOperand? at h
  split at h
  · cases h
    rfl
  · cases h
    rfl
  · obtain ⟨k, -, rfl⟩ := Option.map_eq_some_iff.1 h
    rfl
  · obtain ⟨k, -, rfl⟩ := Option.map_eq_some_iff.1 h
    rfl
  · cases h

/-- Prefix operators respect lifting. -/
theorem Lifts.unary {op : UnaryOperator} (h : Lifts Γ t t') (ht : t.Typed Γ)
    (hc : Typing.unary op t offset = .ok c) :
    ∃ c', Typing.unary op t' offset = .ok c' ∧ Lifts Γ c c' := by
  by_cases hty : t'.ty = t.ty
  · obtain ⟨c', hc', hsame⟩ := (Congruence.unary_alike (R := sameOutcome _) op offset
      (h.agree.sameOutcome hty)).exists_of_eq_ok hc
    exact ⟨c', hc', SameOutcome.lifts hsame⟩
  obtain ⟨hv, hn⟩ := h.of_ty_ne hty
  have hplain : t.ty.isNullable = false := isNullable_of_isValueType hv
  obtain ⟨w, c₀, hw, hc₀, rfl⟩ := unary_eq_ok_iff.1 hc
  rw [hplain] at hc₀ ⊢
  have hwv := unaryOperand?_isValueType hw
  obtain ⟨c₀', hc₀', hagree⟩ := h.coerceTo?_nullable ht hwv hc₀
  refine ⟨.unary op c₀' true (.nullable w), unary_eq_ok_iff.2 ⟨w, c₀', ?_, ?_, ?_⟩, ?_⟩
  · rw [h.underlying_eq, hw]
  · rw [hn, liftTo_true hwv, hc₀']
  · rw [hn, liftTo_true hwv]
  refine .of_liftTo hwv rfl rfl fun env henv => ?_
  obtain ⟨hc₀t, hc₀ty⟩ := coerceTo?_typed ht hc₀
  have hne := evaluate_ne_null hc₀t (hc₀ty ▸ hwv) henv
  calc
    evaluate (.unary op c₀' true (.nullable w)) env =
        evaluate c₀ env >>= unaryOn op true := by rw [evaluate, hagree env henv]
    _ = evaluate c₀ env >>= unaryOn op false :=
      bind_congr_of_yields hne fun v hv => unaryOn_of_ne_null hv op true
    _ = evaluate (.unary op c₀ false w) env := by rw [evaluate]

/-! ### Operands that meet in one type -/

theorem temporal?_isValueType {op : BinaryOperator} {sl sr result : Ty}
    (h : temporal? op sl sr = some (wl, wr, result)) :
    wl.isValueType = true ∧ wr.isValueType = true ∧ result.isValueType = true := by
  cases temporal?_temporal h <;> exact ⟨rfl, rfl, rfl⟩

theorem coerceBoth_eq_ok_iff {target : Ty} {cl cr : Term} :
    coerceBoth l r target = .ok (cl, cr) ↔
      l.coerceTo? target = some cl ∧ r.coerceTo? target = some cr := by
  unfold coerceBoth
  cases l.coerceTo? target with
  | none => exact ⟨nofun, nofun⟩
  | some cl' =>
      cases r.coerceTo? target with
      | none => exact ⟨nofun, nofun⟩
      | some cr' => simp

theorem comparison_eq_ok_iff {op : BinaryOperator} {target? : Option Ty} :
    comparison op l r target? lifted offset = .ok c ↔ ∃ w cl cr, target? = some w ∧
      l.coerceTo? (liftTo w lifted) = some cl ∧ r.coerceTo? (liftTo w lifted) = some cr ∧
      c = .binary (operation op) cl cr lifted .boolean := by
  unfold comparison
  constructor
  · intro hc
    split at hc
    · cases hc
    · rename_i w
      split at hc
      · rename_i cl cr hboth
        cases hc
        obtain ⟨hcl, hcr⟩ := coerceBoth_eq_ok_iff.1 hboth
        exact ⟨w, cl, cr, rfl, hcl, hcr, rfl⟩
      · cases hc
  · rintro ⟨w, cl, cr, rfl, hcl, hcr, rfl⟩
    dsimp only
    rw [coerceBoth_eq_ok_iff.2 ⟨hcl, hcr⟩]

theorem arithmetic_eq_ok_iff {op : BinaryOperator} :
    Typing.arithmetic op l r lifted offset = .ok c ↔ ∃ w cl cr,
      (promoteTypes? (numberOfDay l).ty.underlying (numberOfDay r).ty.underlying).join = some w ∧
      (numberOfDay l).coerceTo? (liftTo w lifted) = some cl ∧
      (numberOfDay r).coerceTo? (liftTo w lifted) = some cr ∧
      c = .binary (operation op) cl cr lifted (liftTo w lifted) := by
  unfold Typing.arithmetic
  dsimp only
  constructor
  · intro hc
    split at hc
    · cases hc
    · rename_i w hw
      split at hc
      · rename_i cl cr hboth
        cases hc
        obtain ⟨hcl, hcr⟩ := coerceBoth_eq_ok_iff.1 hboth
        exact ⟨w, cl, cr, hw, hcl, hcr, rfl⟩
      · cases hc
  · rintro ⟨w, cl, cr, hw, hcl, hcr, rfl⟩
    rw [hw]
    dsimp only
    rw [coerceBoth_eq_ok_iff.2 ⟨hcl, hcr⟩]

/-- What holds of the types of numbers and of any other type that operands meet in. -/
theorem promoteTypes?_getD {P : Ty → Prop} {sl sr : Ty} {other : Option Ty}
    (hnumeric : ∀ k, P (.numeric k)) (hother : ∀ w, other = some w → P w)
    (h : (promoteTypes? sl sr).getD other = some w) : P w := by
  cases hp : promoteTypes? sl sr with
  | none =>
      rw [hp] at h
      exact hother w h
  | some target? =>
      rw [hp] at h
      obtain ⟨k, -, rfl⟩ := promoteTypes?_join ((congrArg Option.join hp).trans h)
      exact hnumeric k

theorem isValueType_underlying {s : Ty} (h : s.isValueType = true) :
    s.underlying.isValueType = true := by
  rw [underlying_of_isNullable_false (isNullable_of_isValueType h), h]

/-- The operation of an operator that is neither logical nor `??`. -/
theorem operation_ne {op : BinaryOperator} (hand : op ≠ .and) (hor : op ≠ .or)
    (hcoalesce : op ≠ .coalesce) : operation op ≠ .and ∧ operation op ≠ .or := by
  cases op with
  | and => exact absurd rfl hand
  | or => exact absurd rfl hor
  | coalesce => exact absurd rfl hcoalesce
  | _ => exact ⟨nofun, nofun⟩

/-- Days of the week get nullable as their numbers do. -/
theorem Lifts.numberOfDay (h : Lifts Γ t t') (ht : t.Typed Γ) :
    Lifts Γ (numberOfDay t) (numberOfDay t') := by
  by_cases hty : t'.ty = t.ty
  · exact SameOutcome.lifts (Congruence.numberOfDay_rel (R := sameOutcome _)
      (h.agree.sameOutcome hty))
  obtain ⟨hv, hn⟩ := h.of_ty_ne hty
  have hplain : t.ty.isNullable = false := isNullable_of_isValueType hv
  unfold Typing.numberOfDay
  rw [h.underlying_eq]
  split
  · dsimp only
    rw [hn, hplain]
    have hplain : Ty.int32 = liftTo .int32 false := rfl
    refine .of_liftTo rfl hplain rfl ?_
    exact h.agree.convert ht hv (fun v hv => by simp only [convertBy, nonNull_eq hv]) _ _
  · exact h

section Binary

variable {op : BinaryOperator} (hl : Lifts Γ l l') (hr : Lifts Γ r r') (hlt : l.Typed Γ)
  (hrt : r.Typed Γ)
include hl hr hlt hrt

/-- Operands that meet in a value type, or in the nullable type over it, meet in the nullable type
where they are lifted, and the operation on them is lifted with them. -/
theorem exists_operands {cl cr : Term} (hwl : wl.isValueType = true) (hwr : wr.isValueType = true)
    (hcl : l.coerceTo? (liftTo wl lifted) = some cl)
    (hcr : r.coerceTo? (liftTo wr lifted) = some cr) (hand : operation op ≠ .and)
    (hor : operation op ≠ .or) :
    ∃ cl' cr', l'.coerceTo? (liftTo wl true) = some cl' ∧
      r'.coerceTo? (liftTo wr true) = some cr' ∧
      ∀ ty ty', Agree Γ (.binary (operation op) cl cr lifted ty)
        (.binary (operation op) cl' cr' true ty') := by
  obtain ⟨cl', hcl', hla⟩ := hl.coerceTo?_nullable hlt hwl hcl
  obtain ⟨cr', hcr', hra⟩ := hr.coerceTo?_nullable hrt hwr hcr
  obtain ⟨hclt, hclty⟩ := coerceTo?_typed hlt hcl
  obtain ⟨hcrt, hcrty⟩ := coerceTo?_typed hrt hcr
  rw [liftTo_true hwl, liftTo_true hwr]
  exact ⟨cl', cr', hcl', hcr', hla.binary_lifted hra hclt hcrt hwl hwr hclty hcrty hand hor⟩

theorem arithmetic_lifts (hand : operation op ≠ .and) (hor : operation op ≠ .or)
    (hc : Typing.arithmetic op l r lifted offset = .ok c) :
    ∃ c', Typing.arithmetic op l' r' true offset = .ok c' ∧ Lifts Γ c c' := by
  obtain ⟨w, cl, cr, hw, hcl, hcr, rfl⟩ := arithmetic_eq_ok_iff.1 hc
  obtain ⟨k, -, rfl⟩ := promoteTypes?_join hw
  have hln := hl.numberOfDay hlt
  have hrn := hr.numberOfDay hrt
  obtain ⟨cl', cr', hcl', hcr', hagree⟩ := exists_operands hln hrn (numberOfDay_typed hlt)
    (numberOfDay_typed hrt) rfl rfl hcl hcr hand hor
  refine ⟨_, arithmetic_eq_ok_iff.2 ⟨_, cl', cr', ?_, hcl', hcr', rfl⟩, ?_⟩
  · rw [hln.underlying_eq, hrn.underlying_eq, hw]
  · exact .of_liftTo rfl rfl rfl (hagree _ _)

theorem comparison_lifts {target? : Option Ty} (hw : ∀ w, target? = some w → w.isValueType = true)
    (hand : operation op ≠ .and) (hor : operation op ≠ .or)
    (hc : comparison op l r target? lifted offset = .ok c) :
    ∃ c', comparison op l' r' target? true offset = .ok c' ∧ Lifts Γ c c' := by
  obtain ⟨w, cl, cr, rfl, hcl, hcr, rfl⟩ := comparison_eq_ok_iff.1 hc
  have hwv := hw w rfl
  obtain ⟨cl', cr', hcl', hcr', hagree⟩ := exists_operands hl hr hlt hrt hwv hwv hcl hcr hand hor
  exact ⟨_, comparison_eq_ok_iff.2 ⟨w, cl', cr', rfl, hcl', hcr', rfl⟩, Or.inl rfl, hagree _ _⟩

theorem additive_lifts (hand : operation op ≠ .and) (hor : operation op ≠ .or)
    (hc : additive op l r lifted offset = .ok c) :
    ∃ c', additive op l' r' true offset = .ok c' ∧ Lifts Γ c c' := by
  unfold additive at hc ⊢
  rw [hl.underlying_eq, hr.underlying_eq]
  cases htypes : temporal? op l.ty.underlying r.ty.underlying with
  | none =>
      rw [htypes] at hc
      exact arithmetic_lifts hl hr hlt hrt hand hor hc
  | some types =>
      obtain ⟨wl, wr, result⟩ := types
      obtain ⟨hwl, hwr, hresult⟩ := temporal?_isValueType htypes
      rw [htypes] at hc
      dsimp only at hc ⊢
      split at hc
      · rename_i cl cr hcl hcr
        cases hc
        obtain ⟨cl', cr', hcl', hcr', hagree⟩ :=
          exists_operands hl hr hlt hrt hwl hwr hcl hcr hand hor
        rw [hcl', hcr']
        exact ⟨_, rfl, .of_liftTo hresult rfl (liftTo_true hresult) (hagree _ _)⟩
      · cases hc

/-! ### Comparisons -/

omit hlt hrt in
theorem comparison_object (hc : comparison op l r (some .object) false offset = .ok c) :
    ∃ c', comparison op l' r' (some .object) false offset = .ok c' ∧ Lifts Γ c c' := by
  obtain ⟨w, cl, cr, hw, hcl, hcr, rfl⟩ := comparison_eq_ok_iff.1 hc
  cases hw
  obtain ⟨cl', hcl', hla⟩ := hl.coerceTo?_object hcl
  obtain ⟨cr', hcr', hra⟩ := hr.coerceTo?_object hcr
  exact ⟨_, comparison_eq_ok_iff.2 ⟨_, cl', cr', rfl, hcl', hcr', rfl⟩, Or.inl rfl,
    hla.binary hra _ _ _ _⟩

theorem relational_lifts
    (hv : l.ty.underlying.isValueType = true ∨ r.ty.underlying.isValueType = true)
    (hand : operation op ≠ .and) (hor : operation op ≠ .or)
    (hc : relational op l r lifted offset = .ok c) :
    ∃ c', relational op l' r' true offset = .ok c' ∧ Lifts Γ c c' := by
  unfold relational at hc ⊢
  rw [hl.underlying_eq, hr.underlying_eq]
  refine comparison_lifts hl hr hlt hrt (fun w hw => ?_) hand hor hc
  refine promoteTypes?_getD (P := (·.isValueType = true)) (fun _ => rfl) (fun w hw => ?_) hw
  split at hw
  · rename_i heq
    rw [Bool.and_eq_true, decide_eq_true_iff] at heq
    cases hw
    rw [← heq.1, or_self] at hv
    exact hv
  · cases hw

omit hlt hrt in
/-- A comparison with the literal `null` is typed only if the other operand may be `null` anyway. -/
theorem nullTest_lifts (hnull : l.isNullLiteral = true) (hc : nullTest op l r offset = .ok c) :
    ∃ c', nullTest op l' r' offset = .ok c' ∧ Lifts Γ c c' := by
  have hlty : l'.ty = l.ty := by
    have hty : l.ty = .null := of_decide_eq_true hnull
    rw [hty, hl.ty_eq_iff rfl, hty]
  have hrty : r'.ty = r.ty := by
    by_contra hne
    obtain ⟨hv, -⟩ := hr.of_ty_ne hne
    have hneq : Ty.null ≠ r.ty := by
      intro heq
      rw [← heq] at hv
      cases hv
    have hnone : l.coerceTo? r.ty = none := by
      rw [Term.coerceTo?, of_decide_eq_true hnull, implicitSteps?_of_isValueType hv, if_neg hneq]
      rfl
    unfold nullTest at hc
    rw [hnone] at hc
    cases hc
  obtain ⟨c', hc', hsame⟩ := (Congruence.nullTest_alike (R := sameOutcome _)
    (hl.agree.sameOutcome hlty) (hr.agree.sameOutcome hrty) op offset).exists_of_eq_ok hc
  exact ⟨c', hc', SameOutcome.lifts hsame⟩

theorem equality_lifts (hn : (l'.ty.isNullable || r'.ty.isNullable) = true)
    (hv : l.ty.underlying.isValueType = true ∨ r.ty.underlying.isValueType = true)
    (hand : operation op ≠ .and) (hor : operation op ≠ .or)
    (hc : equality op l r offset = .ok c) :
    ∃ c', equality op l' r' offset = .ok c' ∧ Lifts Γ c c' := by
  unfold equality at hc ⊢
  rw [hl.underlying_eq, hr.underlying_eq, hl.isNullLiteral_eq, hr.isNullLiteral_eq, hn]
  split at hc
  · rename_i hnull
    rw [if_pos hnull]
    exact nullTest_lifts hl hr hnull hc
  rename_i hnull
  rw [if_neg hnull]
  split at hc
  · rename_i hnull
    rw [if_pos hnull]
    exact nullTest_lifts hr hl hnull hc
  rename_i hnull
  rw [if_neg hnull]
  -- operands of which one is of a value type meet in a value type or as objects
  have hmeet (w : Ty) : (promoteTypes? l.ty.underlying r.ty.underlying).getD
      (if l.ty.underlying = r.ty.underlying then some l.ty.underlying
        else if l.ty.underlying = .object || r.ty.underlying = .object then some .object
        else none) = some w → w.isValueType = true ∨ w = .object := by
    refine promoteTypes?_getD (P := fun w => w.isValueType = true ∨ w = .object)
      (fun _ => Or.inl rfl) fun w hw => ?_
    split at hw
    · rename_i heq
      cases hw
      rw [← heq, or_self] at hv
      exact Or.inl hv
    · split at hw
      · cases hw
        exact Or.inr rfl
      · cases hw
  dsimp only at hc ⊢
  generalize Option.getD _ _ = target? at hc hmeet ⊢
  cases target? with
  | none => cases hc
  | some w =>
      rcases hmeet w rfl with hwv | rfl
      · rw [Option.any_some, hwv]
        refine comparison_lifts hl hr hlt hrt (fun _ h => ?_) hand hor hc
        cases h
        exact hwv
      · rw [show (some Ty.object).any (·.isValueType) = false from rfl, Bool.and_false] at hc
        exact comparison_object hl hr hc

/-- Operators that are neither logical nor `??` respect lifting. -/
theorem binary_lifts (hand : op ≠ .and) (hor : op ≠ .or) (hcoalesce : op ≠ .coalesce)
    (hc : Typing.binary op l r offset = .ok c) :
    ∃ c', Typing.binary op l' r' offset = .ok c' ∧ Lifts Γ c c' := by
  by_cases hsame : l'.ty = l.ty ∧ r'.ty = r.ty
  · obtain ⟨c', hc', hsame⟩ := (Congruence.binary_alike (R := sameOutcome _)
      (hl.agree.sameOutcome hsame.1) (hr.agree.sameOutcome hsame.2) op offset).exists_of_eq_ok hc
    exact ⟨c', hc', SameOutcome.lifts hsame⟩
  have hchange := (not_and_or.1 hsame).imp hl.of_ty_ne hr.of_ty_ne
  have hn : (l'.ty.isNullable || r'.ty.isNullable) = true :=
    Bool.or_eq_true_iff.2 (hchange.imp And.right And.right)
  have hv : l.ty.underlying.isValueType = true ∨ r.ty.underlying.isValueType = true :=
    hchange.imp (fun h => isValueType_underlying h.1) (fun h => isValueType_underlying h.1)
  obtain ⟨hand', hor'⟩ := operation_ne hand hor hcoalesce
  unfold Typing.binary at hc ⊢
  rw [hn]
  cases op with
  | and => exact absurd rfl hand
  | or => exact absurd rfl hor
  | coalesce => exact absurd rfl hcoalesce
  | equal | notEqual => exact equality_lifts hl hr hlt hrt hn hv hand' hor' hc
  | lessThan | greaterThan | lessEqual | greaterEqual =>
      exact relational_lifts hl hr hlt hrt hv hand' hor' hc
  | add =>
      dsimp only at hc ⊢
      rw [decide_eq_decide.2 (hl.ty_eq_iff (w := .string) rfl),
        decide_eq_decide.2 (hr.ty_eq_iff (w := .string) rfl)]
      split at hc
      · rename_i hstring
        cases hc
        rw [if_pos hstring]
        exact ⟨_, rfl, Or.inl rfl, hl.agree.binary hr.agree _ _ _ _⟩
      · rename_i hstring
        rw [if_neg hstring]
        exact additive_lifts hl hr hlt hrt hand' hor' hc
  | subtract | multiply | divide | modulo => exact additive_lifts hl hr hlt hrt hand' hor' hc

end Binary

end Typing

end Elementwise
