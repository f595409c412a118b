import Elementwise.Proofs.Exact.Arithmetic
import Elementwise.Proofs.Exact.Coercion
import Elementwise.Proofs.Nullable.Operator
import Elementwise.Proofs.Soundness.Binding

/-!
Relational operators where an operand is `null`.  Operands of value types are lifted, and a lifted
relation with a missing operand is false.  Strings are references, and a relation between them is not
lifted: there `null` comes before every string and is equal to itself, as it is for sorting.
-/

namespace Elementwise

open Eval

namespace Typing

variable {Γ : List Ty} {t t' l r : Term} {target w : Ty} {op : BinaryOperator} {lifted : Bool}
  {offset : Nat} {env : List Value} {a b v : Value}

/-! ### Relations between values -/

theorem binaryOn_missing (hop : op.precedence? = some .relational) (hnull : a = .null ∨ b = .null) :
    binaryOn (operation op) true a b = .ok (.boolean false) := by
  have hmissing : (true && (a.isNull || b.isNull)) = true := by
    rcases hnull with rfl | rfl
    · rfl
    · exact Bool.or_true _
  cases op with
  | lessThan | greaterThan | lessEqual | greaterEqual =>
      simp only [operation, binaryOn, hmissing, Bool.not_true, Bool.false_and]
  | _ => cases hop

/-- Of two strings of which one is `null` the smaller one is the one that is not there. -/
theorem binaryOn_strings (hop : op.precedence? = some .relational) (ha : a.HasType .string)
    (hb : b.HasType .string) (hnull : a = .null ∨ b = .null) :
    ∃ holds, op.truth? (!a.isNull) (!b.isNull) = some holds ∧
      binaryOn (operation op) false a b = .ok (.boolean holds) := by
  rcases Value.hasType_string.1 ha with rfl | ⟨s, rfl⟩ <;>
    rcases Value.hasType_string.1 hb with rfl | ⟨s', rfl⟩
  case inr.inr => rcases hnull with h | h <;> cases h
  all_goals
    cases op with
    | lessThan | greaterThan | lessEqual | greaterEqual => exact ⟨_, rfl, rfl⟩
    | _ => cases hop

theorem operation_ne_of_relational (hop : op.precedence? = some .relational) :
    operation op ≠ .and ∧ operation op ≠ .or := by
  refine operation_ne ?_ ?_ ?_ <;>
    · rintro rfl
      cases hop

/-! ### Operands -/

/-- An operand that has a value has one of the type that it is converted to, and stays `null`. -/
theorem exists_converted (ht : t.Typed Γ) (henv : List.Forall₂ Value.HasType env Γ)
    (hv : evaluate t env = .ok v) (hc : t.coerceTo? target = some t') :
    ∃ v', evaluate t' env = .ok v' ∧ v'.HasType target ∧ (v = .null → v' = .null) := by
  have hty := evaluate_hasType ht henv
  rw [hv] at hty
  cases hty with
  | ok hty =>
      obtain ⟨steps, hs, -⟩ := Option.map_eq_some_iff.1 hc
      obtain ⟨v', hrun, hcoerced⟩ := (implicit_of_implicitSteps? hs).run hty
      refine ⟨v', ?_, hcoerced.hasType, hcoerced.null⟩
      rw [evaluate_coerceTo? hs hc, hv]
      exact hrun

/-- A relation is between operands that are converted to one value type, or between strings. -/
theorem relational_cases (hc : relational op l r lifted offset = .ok t) :
    ∃ w cl cr, (w.isValueType = true ∨
        w = .string ∧ l.ty.underlying = .string ∧ r.ty.underlying = .string) ∧
      l.coerceTo? (liftTo w lifted) = some cl ∧ r.coerceTo? (liftTo w lifted) = some cr ∧
      t = .binary (operation op) cl cr lifted .boolean := by
  obtain ⟨w, cl, cr, hw, hcl, hcr, ht⟩ := comparison_eq_ok_iff.1 hc
  refine ⟨w, cl, cr, ?_, hcl, hcr, ht⟩
  refine promoteTypes?_getD (P := fun w => w.isValueType = true ∨ w = .string ∧
    l.ty.underlying = .string ∧ r.ty.underlying = .string) (fun _ => Or.inl rfl) (fun w hw => ?_) hw
  split at hw
  · rename_i heq
    rw [Bool.and_eq_true, decide_eq_true_iff] at heq
    obtain ⟨heq, hrelations⟩ := heq
    cases hw
    cases hl : l.ty.underlying with
    | string => exact Or.inr ⟨rfl, rfl, heq ▸ hl⟩
    | dateTime | dateTimeOffset | timeSpan | dayOfWeek => exact Or.inl rfl
    | _ =>
        rw [hl] at hrelations
        cases hrelations
  · cases hw

/-- Strings that are compared stay as they are, and so does `null`. -/
theorem relational_strings (hl : l.ty = .string) (hr : r.ty = .string)
    (hc : relational op l r false offset = .ok t) :
    t = .binary (operation op) l r false .boolean := by
  have hself {s : Term} (hs : s.ty = .string) : s.coerceTo? .string = some s := by
    rw [← hs, coerceTo?_self]
  unfold relational at hc
  rw [hl, hr] at hc
  obtain ⟨w, cl, cr, hw, hcl, hcr, rfl⟩ := comparison_eq_ok_iff.1 hc
  cases hw
  cases (hself hl).symm.trans hcl
  cases (hself hr).symm.trans hcr
  rfl

/-- Nothing nullable is taken for a string. -/
theorem ty_eq_string (hty : t.ty.underlying = .string)
    (hc : t.coerceTo? (liftTo .string lifted) = some t') : t.ty = .string := by
  have hlift : liftTo .string lifted = .string := by cases lifted <;> rfl
  rcases eq_underlying_or_nullable t.ty with h | h
  · exact h.trans hty
  · rw [Term.coerceTo?, h, hlift, implicitSteps?_eq_none rfl (by decide)] at hc
    cases hc

/-- Where `null` is among the values of a lifted value type, it is lifted indeed. -/
theorem lifted_of_null (hw : w.isValueType = true)
    (h : Value.null.HasType (liftTo w lifted)) : lifted = true := by
  rcases h.of_liftTo with h | ⟨hlifted, -⟩
  · exact absurd rfl (h.ne_null (acceptsNull_of_isValueType hw))
  · exact hlifted

/-! ### Relations between operands -/

section Operands

variable (hop : op.precedence? = some .relational) (hlt : l.Typed Γ) (hrt : r.Typed Γ)
  (henv : List.Forall₂ Value.HasType env Γ) (ha : evaluate l env = .ok a)
  (hb : evaluate r env = .ok b) (hnull : a = .null ∨ b = .null)
include hop hlt hrt henv ha hb hnull

theorem relational_missing (hstring : ¬(l.ty = .string ∧ r.ty = .string))
    (hc : relational op l r lifted offset = .ok t) :
    evaluate t env = .ok (.boolean false) := by
  obtain ⟨w, cl, cr, hw, hcl, hcr, rfl⟩ := relational_cases hc
  have hw : w.isValueType = true := by
    refine hw.resolve_right ?_
    rintro ⟨rfl, hl, hr⟩
    exact hstring ⟨ty_eq_string hl hcl, ty_eq_string hr hcr⟩
  obtain ⟨a', ha', haty, hanull⟩ := exists_converted hlt henv ha hcl
  obtain ⟨b', hb', hbty, hbnull⟩ := exists_converted hrt henv hb hcr
  have hnull' : a' = .null ∨ b' = .null := hnull.imp hanull hbnull
  have hlifted : lifted = true := by
    rcases hnull' with rfl | rfl
    · exact lifted_of_null hw haty
    · exact lifted_of_null hw hbty
  obtain ⟨hand, hor⟩ := operation_ne_of_relational hop
  rw [evaluate_binary hand hor, ha', hb', hlifted]
  exact binaryOn_missing hop hnull'

theorem relational_null_string (hl : l.ty = .string) (hr : r.ty = .string)
    (hc : relational op l r false offset = .ok t) :
    ∃ holds, op.truth? (!a.isNull) (!b.isNull) = some holds ∧
      evaluate t env = .ok (.boolean holds) := by
  obtain ⟨a', ha', haty, -⟩ := exists_converted hlt henv ha (coerceTo?_self l)
  obtain ⟨b', hb', hbty, -⟩ := exists_converted hrt henv hb (coerceTo?_self r)
  cases ha.symm.trans ha'
  cases hb.symm.trans hb'
  obtain ⟨hand, hor⟩ := operation_ne_of_relational hop
  rw [relational_strings hl hr hc, evaluate_binary hand hor, ha, hb]
  exact binaryOn_strings hop (hl ▸ haty) (hr ▸ hbty) hnull

end Operands

/-! ### Expressions -/

theorem relational_of_bind {catalog : Catalog} {e₁ e₂ : Expr} {np : Bool} {scopes : List Scope}
    (hop : op.precedence? = some .relational) (hl : bind catalog e₁ false scopes = .ok l)
    (hr : bind catalog e₂ false scopes = .ok r)
    (ht : bind catalog (.binary op e₁ e₂ offset) np scopes = .ok t) :
    relational op l r (l.ty.isNullable || r.ty.isNullable) offset = .ok t := by
  rw [bind, hl, hr] at ht
  cases op with
  | lessThan | greaterThan | lessEqual | greaterEqual => exact ht
  | _ => cases hop

/-- A relation with an operand that is `null` is false, unless both operands are strings: of these
`null` is less than every other and equal to itself. -/
theorem bind_relational_null {catalog : Catalog} {e₁ e₂ : Expr} {np : Bool} {scopes : List Scope}
    (hcatalog : catalog.Composed) (hop : op.precedence? = some .relational)
    (hl : bind catalog e₁ false scopes = .ok l) (hr : bind catalog e₂ false scopes = .ok r)
    (ht : bind catalog (.binary op e₁ e₂ offset) np scopes = .ok t)
    (henv : List.Forall₂ Value.HasType env (types scopes)) (ha : evaluate l env = .ok a)
    (hb : evaluate r env = .ok b) (hnull : a = .null ∨ b = .null) :
    (¬(l.ty = .string ∧ r.ty = .string) → evaluate t env = .ok (.boolean false)) ∧
      (l.ty = .string → r.ty = .string → ∃ holds,
        op.truth? (!a.isNull) (!b.isNull) = some holds ∧
          evaluate t env = .ok (.boolean holds)) := by
  have hlt : l.Typed (types scopes) := (bind_typed hcatalog e₁ false scopes).of_eq_ok hl
  have hrt : r.Typed (types scopes) := (bind_typed hcatalog e₂ false scopes).of_eq_ok hr
  have hrelation := relational_of_bind hop hl hr ht
  refine ⟨fun hstring => ?_, fun hls hrs => ?_⟩
  · exact relational_missing hop hlt hrt henv ha hb hnull hstring hrelation
  · rw [hls, hrs] at hrelation
    exact relational_null_string hop hlt hrt henv ha hb hnull hls hrs hrelation

/-- A number that is not there is not at least one. -/
theorem bind_relational_null_number : ∃ t,
    bind .standard (.binary .greaterEqual (.it 0)
        (.literal (.number (.word .int32 (.wrap .int32 1)))) 3) false
      [⟨itKey, .nullable .int32⟩] = .ok t ∧
    evaluate t [.null] = .ok (.boolean false) := by
  have hl : bind .standard (.it 0) false [⟨itKey, .nullable .int32⟩] =
      .ok (.parameter 0 (.nullable .int32)) := rfl
  have hr : bind .standard (.literal (.number (.word .int32 (.wrap .int32 1)))) false
      [⟨itKey, .nullable .int32⟩] =
      .ok (.constant (.number (.word .int32 (.wrap .int32 1))) .int32) := rfl
  have henv : List.Forall₂ Value.HasType [.null] (types [⟨itKey, .nullable .int32⟩]) :=
    .cons (Value.null_hasType.2 rfl) .nil
  obtain ⟨t, ht⟩ : ∃ t, bind .standard (.binary .greaterEqual (.it 0)
      (.literal (.number (.word .int32 (.wrap .int32 1)))) 3) false
      [⟨itKey, .nullable .int32⟩] = .ok t := ⟨_, rfl⟩
  exact ⟨t, ht, (bind_relational_null .standard rfl hl hr ht henv rfl rfl (Or.inl rfl)).1
    (by decide)⟩

/-- A string that is not there is less than one that is, and at most itself. -/
theorem bind_relational_null_true : ∃ l r t t',
    bindInput .standard (.it 0) .string = .ok l ∧ evaluate l [.null] = .ok .null ∧
    bindInput .standard (.literal (.string "a")) .string = .ok r ∧
      evaluate r [.null] = .ok (.string "a") ∧
    bindInput .standard (.binary .lessThan (.it 0) (.literal (.string "a")) 3) .string = .ok t ∧
      evaluate t [.null] = .ok (.boolean true) ∧
    bindInput .standard (.binary .lessEqual (.it 0) (.it 6) 3) .string = .ok t' ∧
      evaluate t' [.null] = .ok (.boolean true) :=
  ⟨_, _, _, _, rfl, rfl, rfl, rfl, rfl, rfl, rfl, rfl⟩

end Typing

end Elementwise
