import Elementwise.Eval.Term
import Elementwise.Proofs.Soundness.Conversion
import Elementwise.Typing.Operator

/-!
Operators and conversions give what they promise.  Lifted ones pass `null` on, and a plain operator
never sees it.
-/

namespace Elementwise

open Number (NumericKind)
open Typing (liftTo)

/-! ### Lifting -/

theorem Typing.liftTo_true {t : Ty} (h : t.isValueType = true) : liftTo t true = .nullable t := by
  rw [liftTo, if_pos rfl, Ty.asNullable, if_pos h]

theorem Value.HasType.liftTo {v : Value} {t : Ty} (h : v.HasType t) (lifted : Bool) :
    v.HasType (liftTo t lifted) := by
  cases lifted with
  | false => exact h
  | true => exact h.asNullable

/-- A value of a lifted type is one of the type itself, or `null` where it is lifted. -/
theorem Value.HasType.of_liftTo {v : Value} {t : Ty} {lifted : Bool}
    (h : v.HasType (Typing.liftTo t lifted)) : v.HasType t ∨ lifted = true ∧ v = .null := by
  cases lifted with
  | false => exact Or.inl h
  | true =>
      rw [Typing.liftTo, if_pos rfl, Ty.asNullable] at h
      split at h
      · exact (hasType_nullable.1 h).symm.imp_right fun h => ⟨rfl, h⟩
      · exact Or.inl h

theorem Value.null_hasType_liftTo (t : Ty) : Value.null.HasType (liftTo t true) :=
  Value.null_hasType_asNullable t

/-! ### Implicit conversions -/

/-- Which types an implicit conversion leads from and to. -/
inductive Coercion.Converts : Coercion → Ty → Ty → Prop where
  | numeric {j k : NumericKind} : Converts (.numeric k) (.numeric j) (.numeric k)
  | liftedNumeric {j k : NumericKind} :
    Converts (.liftedNumeric k) (.nullable (.numeric j)) (.nullable (.numeric k))
  | wrap {t : Ty} : Converts .wrap t (.nullable t)
  | box {t : Ty} : Converts .box t .object
  | nullLiteral {t : Ty} (h : t.acceptsNull = true) : Converts .nullLiteral .null t
  | upcast {s t : Ty} (hs : s.isReference = true) (h : isImplicit s t = true) :
    Converts .upcast s t

/-- What references convert to: any type with `null` if they are `null`, objects, and arrays and
sequences whose items are the same or references that items convert to. -/
theorem isImplicit_cases {s t : Ty} (h : isImplicit s t = true) (hs : s.isReference = true) :
    s = t ∨ s = .null ∧ t.acceptsNull = true ∨ t = .object ∨
      ∃ s' t', (s = .array s' ∧ t = .array t' ∨ s.element? = some s' ∧ t = .sequence t') ∧
        (s' = t' ∨ s'.isReference = true ∧ isImplicit s' t' = true) := by
  have items {s' t' : Ty}
      (h : (decide (s' = t') || s'.isReference && t'.isReference && isImplicit s' t') = true) :
      s' = t' ∨ s'.isReference = true ∧ isImplicit s' t' = true := by
    rw [Bool.or_eq_true, decide_eq_true_iff, Bool.and_eq_true, Bool.and_eq_true] at h
    exact h.imp_right fun h => ⟨h.1.1, h.2⟩
  rw [isImplicit, implicitSteps?.eq_def] at h
  simp only at h
  by_cases heq : s = t
  · exact Or.inl heq
  rw [if_neg heq] at h
  by_cases hnull : s = .null
  · rw [if_pos hnull] at h
    by_cases ht : t.acceptsNull = true
    · exact Or.inr (Or.inl ⟨hnull, ht⟩)
    · rw [if_neg ht] at h
      cases h
  rw [if_neg hnull] at h
  by_cases hobj : t = .object
  · exact Or.inr (Or.inr (Or.inl hobj))
  rw [if_neg hobj] at h
  cases t with
  | nullable t =>
      cases s with
      | _ => first | cases h | cases hs
  | array t =>
      cases s with
      | array s =>
          dsimp only at h
          split at h
          · exact Or.inr (Or.inr (Or.inr ⟨s, t, Or.inl ⟨rfl, rfl⟩, items (by assumption)⟩))
          · cases h
      | _ => cases h
  | sequence t =>
      cases s with
      | array s =>
          dsimp only at h
          split at h
          · exact Or.inr (Or.inr (Or.inr ⟨s, t, Or.inr ⟨rfl, rfl⟩, items (by assumption)⟩))
          · cases h
      | sequence s =>
          dsimp only at h
          split at h
          · exact Or.inr (Or.inr (Or.inr ⟨s, t, Or.inr ⟨rfl, rfl⟩, items (by assumption)⟩))
          · cases h
      | _ => cases h
  | _ =>
      cases s with
      | _ => first | cases h | cases hs

/-- A reference that converts to a type is a value of it. -/
theorem Value.HasType.of_isImplicit {s t : Ty} (hs : s.isReference = true)
    (h : isImplicit s t = true) {v : Value} (hv : v.HasType s) : v.HasType t := by
  rcases isImplicit_cases h hs with rfl | ⟨rfl, ht⟩ | rfl | ⟨s', t', hst, hitem⟩
  · exact hv
  · obtain rfl := hasType_null.1 hv
    exact null_hasType.2 ht
  · exact hasType_object.2 hv.wellFormed
  · have hsub (x : Value) (hx : x.HasType s') : x.HasType t' := by
      rcases hitem with rfl | ⟨hs', h'⟩
      · exact hx
      · exact of_isImplicit hs' h' hx
    have helement : s.element? = some s' := by
      rcases hst with ⟨rfl, -⟩ | ⟨hs, -⟩
      · rfl
      · exact hs
    have ht : t.acceptsNull = true := by
      rcases hst with ⟨-, rfl⟩ | ⟨-, rfl⟩ <;> rfl
    rcases hv.items helement with rfl | ⟨items, rfl, hi⟩
    · exact null_hasType.2 ht
    · rcases hst with ⟨-, rfl⟩ | ⟨-, rfl⟩
      · exact array_hasType_array.2 fun x hx => hsub x (hi x hx)
      · exact array_hasType_sequence.2 fun x hx => hsub x (hi x hx)
termination_by sizeOf t
decreasing_by
  rcases hst with ⟨-, rfl⟩ | ⟨-, rfl⟩ <;> simp

theorem Eval.coerce_hasType {c : Coercion} {s t : Ty} (hc : c.Converts s t) {v : Value}
    (hv : v.HasType s) : HasType (coerce c v) t := by
  cases hc with
  | @numeric _ k => exact cast_hasType v k
  | @liftedNumeric _ k =>
      exact .ite (.ok (Value.null_hasType.2 rfl))
        ((cast_hasType v k).mono fun v hv => Value.hasType_nullable.2 (Or.inr hv))
  | wrap => exact .ok (Value.hasType_nullable.2 (Or.inr hv))
  | box => exact .ok (Value.hasType_object.2 hv.wellFormed)
  | nullLiteral h =>
      obtain rfl := Value.hasType_null.1 hv
      exact .ok (Value.null_hasType.2 h)
  | upcast hs h => exact .ok (hv.of_isImplicit hs h)

/-! ### Explicit conversions -/

/-- Whether a conversion leads from the one type to the other. -/
def Conversion.Converts (c : Conversion) (s t : Ty) : Prop :=
  match c with
  | .numeric k lifted => (∃ j, s = liftTo (.numeric j) lifted) ∧ t = liftTo (.numeric k) lifted
  | .toDayOfWeek lifted => (∃ j, s = liftTo (.numeric j) lifted) ∧ t = liftTo .dayOfWeek lifted
  | .ofDayOfWeek lifted => s = liftTo .dayOfWeek lifted ∧ t = liftTo .int32 lifted
  | .unwrap => s = .nullable t
  | .unbox t' => s = .object ∧ t = t'

namespace Eval

theorem nonNull_hasType {f : Value → Outcome} {s t : Ty} {lifted : Bool}
    (hf : ∀ v, v.HasType s → HasType (f v) t) {v : Value} (hv : v.HasType (liftTo s lifted)) :
    HasType (nonNull lifted v f) (liftTo t lifted) := by
  by_cases hn : v = .null
  · subst hn
    cases lifted with
    | true => exact .ok (Value.null_hasType_liftTo t)
    | false => exact .error rfl
  · have hv' : v.HasType s := hv.of_liftTo.resolve_right fun h => hn h.2
    have := (hf v hv').mono fun w hw => hw.liftTo lifted
    cases v with
    | null => exact absurd rfl hn
    | _ => exact this

theorem dayOfNumber_hasType (v : Value) : HasType (dayOfNumber v) .dayOfWeek := by
  refine (cast_hasType v (.word .int32)).bind fun n hn => ?_
  obtain ⟨w, rfl⟩ := Value.hasType_word.1 hn
  exact .ok (Value.hasType_dayOfWeek.2 ⟨w, rfl⟩)

theorem numberOfDay_hasType {v : Value} (hv : v.HasType .dayOfWeek) :
    HasType (numberOfDay v) .int32 := by
  obtain ⟨w, rfl⟩ := Value.hasType_dayOfWeek.1 hv
  exact .ok (Value.hasType_word.2 ⟨w, rfl⟩)

theorem unbox_hasType (t : Ty) {v : Value} (hv : v.HasType .object) : HasType (unbox t v) t := by
  unfold unbox
  split
  · exact .ok ⟨by assumption, hv.wellFormed⟩
  · exact .ite (.error rfl) (.error rfl)

theorem convertBy_hasType {c : Conversion} {s t : Ty} (hc : c.Converts s t) {v : Value}
    (hv : v.HasType s) : HasType (convertBy c v) t := by
  cases c with
  | numeric k lifted =>
      obtain ⟨⟨j, rfl⟩, rfl⟩ := hc
      exact nonNull_hasType (fun v _ => cast_hasType v k) hv
  | toDayOfWeek lifted =>
      obtain ⟨⟨j, rfl⟩, rfl⟩ := hc
      exact nonNull_hasType (fun v _ => dayOfNumber_hasType v) hv
  | ofDayOfWeek lifted =>
      obtain ⟨rfl, rfl⟩ := hc
      exact nonNull_hasType (fun v hv => numberOfDay_hasType hv) hv
  | unwrap =>
      obtain rfl := hc
      rcases Value.hasType_nullable.1 hv with rfl | hv
      · exact .error rfl
      · cases v with
        | null => exact .error rfl
        | _ => exact .ok hv
  | unbox t' =>
      obtain ⟨rfl, rfl⟩ := hc
      exact unbox_hasType t hv

end Eval

/-! ### Prefix operators -/

/-- The kinds that numbers are negated in. -/
def negatableKinds : List NumericKind :=
  [.word .int32, .word .int64, .single, .double, .decimal]

/-- Whether a prefix operator applies to values of the type, which it keeps. -/
def UnaryOperator.Takes (op : UnaryOperator) (t : Ty) : Prop :=
  match op with
  | .not => t = .boolean
  | .plus => True
  | .negate => t = .timeSpan ∨ ∃ k ∈ negatableKinds, t = .numeric k

namespace Eval

theorem unary_hasType {op : UnaryOperator} {t : Ty} (h : op.Takes t) {v : Value}
    (hv : v.HasType t) : HasType (unary op v) t := by
  cases op with
  | not =>
      obtain rfl := h
      obtain ⟨b, rfl⟩ := Value.hasType_boolean.1 hv
      exact .ok (Value.hasType_boolean.2 ⟨_, rfl⟩)
  | plus => exact .ok hv
  | negate =>
      rcases h with rfl | ⟨k, hk, rfl⟩
      · obtain ⟨s, rfl⟩ := Value.hasType_timeSpan.1 hv
        simp only [unary]
        split
        · exact .ok (Value.hasType_timeSpan.2 ⟨_, rfl⟩)
        · exact .error rfl
      · simp only [negatableKinds, List.mem_cons, List.not_mem_nil, or_false] at hk
        rcases hk with rfl | rfl | rfl | rfl | rfl
        · obtain ⟨w, rfl⟩ := Value.hasType_word.1 hv
          exact .ok (Value.hasType_word.2 ⟨_, rfl⟩)
        · obtain ⟨w, rfl⟩ := Value.hasType_word.1 hv
          exact .ok (Value.hasType_word.2 ⟨_, rfl⟩)
        · obtain ⟨x, rfl⟩ := Value.hasType_single.1 hv
          exact .ok (Value.hasType_single.2 ⟨_, rfl⟩)
        · obtain ⟨x, rfl⟩ := Value.hasType_double.1 hv
          exact .ok (Value.hasType_double.2 ⟨_, rfl⟩)
        · obtain ⟨d, rfl⟩ := Value.hasType_decimal.1 hv
          exact .ok (Value.hasType_decimal.2 ⟨_, rfl⟩)

theorem unaryOn_hasType {op : UnaryOperator} {t : Ty} (h : op.Takes t) {lifted : Bool} {v : Value}
    (hv : v.HasType (liftTo t lifted)) : HasType (unaryOn op lifted v) (liftTo t lifted) := by
  rcases hv.of_liftTo with hv | ⟨rfl, rfl⟩
  · unfold unaryOn
    split
    · rename_i hn
      rw [Bool.and_eq_true] at hn
      obtain ⟨rfl, -⟩ := hn
      exact .ok (Value.null_hasType_liftTo t)
    · exact (unary_hasType h hv).mono fun w hw => hw.liftTo lifted
  · exact .ok hv

end Eval

/-! ### Binary operators -/

/-- The kinds that numbers are added, subtracted, multiplied and divided in. -/
def arithmeticKinds : List NumericKind :=
  [.word .int32, .word .uint32, .word .int64, .word .uint64, .single, .double, .decimal]

/-- Arithmetic on dates and spans: moving a date, and the distance of dates. -/
inductive Temporal : Ty → Ty → Ty → Prop where
  | move : Temporal .dateTime .timeSpan .dateTime
  | moveOffset : Temporal .dateTimeOffset .timeSpan .dateTimeOffset
  | since : Temporal .dateTime .dateTime .timeSpan
  | sinceOffset : Temporal .dateTimeOffset .dateTimeOffset .timeSpan
  | span : Temporal .timeSpan .timeSpan .timeSpan

def Operation.isArithmetic : Operation → Bool
  | add | subtract | multiply | divide | modulo => true
  | _ => false

/-- The types of the operands and the result of arithmetic. -/
inductive Operation.Computes (op : Operation) : Ty → Ty → Ty → Prop where
  | numeric {k : NumericKind} (hop : op.isArithmetic = true) (hk : k ∈ arithmeticKinds) :
    Computes op (.numeric k) (.numeric k) (.numeric k)
  | temporal {l r t : Ty} (h : Temporal l r t) : Computes op l r t

/-- Whether an operation on operands of the first two types has a result of the last. -/
def Operation.Gives (op : Operation) (lifted : Bool) (left right result : Ty) : Prop :=
  match op with
  | .concat => result = .string
  | .equal | .notEqual | .lessThan | .greaterThan | .lessEqual | .greaterEqual => result = .boolean
  | .and | .or => left = .boolean ∧ right = .boolean ∧ result = .boolean
  | .add | .subtract | .multiply | .divide | .modulo =>
    ∃ l r t, op.Computes l r t ∧ left = liftTo l lifted ∧ right = liftTo r lifted ∧
      result = liftTo t lifted

namespace Eval

open Number (Word WordKind)

theorem wordArithmetic_hasType {op : Operation} (hop : op.isArithmetic = true) (k : WordKind)
    (a b : Word k) : HasType (wordArithmetic op k a b) (.word k) := by
  have wrapped (n : Int) : HasType (.ok (.number (.word k (.wrap k n)))) (.word k) :=
    .ok (Value.hasType_word.2 ⟨_, rfl⟩)
  cases op with
  | add | subtract | multiply => exact wrapped _
  | divide | modulo =>
      refine .ite (.error rfl) ?_
      split
      · exact wrapped _
      · exact .error rfl
  | _ => cases hop

theorem floatArithmetic_hasType {op : Operation} (hop : op.isArithmetic = true) (a b : Float) :
    HasType (floatArithmetic op a b) .double := by
  cases op with
  | add | subtract | multiply | divide | modulo => exact .ok (Value.hasType_double.2 ⟨_, rfl⟩)
  | _ => cases hop

theorem float32Arithmetic_hasType {op : Operation} (hop : op.isArithmetic = true)
    (a b : Float32) : HasType (float32Arithmetic op a b) .single := by
  cases op with
  | add | subtract | multiply | divide | modulo => exact .ok (Value.hasType_single.2 ⟨_, rfl⟩)
  | _ => cases hop

theorem decimalArithmetic_hasType {op : Operation} (hop : op.isArithmetic = true)
    (a b : Decimal) : HasType (decimalArithmetic op a b) .decimal := by
  cases op with
  | add | subtract | multiply =>
      simp only [decimalArithmetic]
      split
      · exact .ok (Value.hasType_decimal.2 ⟨_, rfl⟩)
      · exact .error rfl
  | divide | modulo =>
      refine .ite (.error rfl) ?_
      split
      · exact .ok (Value.hasType_decimal.2 ⟨_, rfl⟩)
      · exact .error rfl
  | _ => cases hop

theorem numericArithmetic_hasType {op : Operation} (hop : op.isArithmetic = true)
    {k : NumericKind} (hk : k ∈ arithmeticKinds) {v w : Value} (hv : v.HasType (.numeric k))
    (hw : w.HasType (.numeric k)) : HasType (arithmetic op v w) (.numeric k) := by
  cases k with
  | word k =>
      obtain ⟨a, rfl⟩ := Value.hasType_word.1 hv
      obtain ⟨b, rfl⟩ := Value.hasType_word.1 hw
      have hk' : hasArithmetic k = true := by
        revert hk
        cases k <;> decide
      rw [arithmetic, dif_pos rfl, if_pos hk']
      exact wordArithmetic_hasType hop k a b
  | single =>
      obtain ⟨a, rfl⟩ := Value.hasType_single.1 hv
      obtain ⟨b, rfl⟩ := Value.hasType_single.1 hw
      exact float32Arithmetic_hasType hop a b
  | double =>
      obtain ⟨a, rfl⟩ := Value.hasType_double.1 hv
      obtain ⟨b, rfl⟩ := Value.hasType_double.1 hw
      exact floatArithmetic_hasType hop a b
  | decimal =>
      obtain ⟨a, rfl⟩ := Value.hasType_decimal.1 hv
      obtain ⟨b, rfl⟩ := Value.hasType_decimal.1 hw
      exact decimalArithmetic_hasType hop a b
  | char => exact absurd hk (by decide)

theorem shiftDate_yields (t : Time.DateTime) (s : Time.Span) :
    Yields (fun _ => True) (shiftDate t s) := by
  rw [shiftDate]
  split
  · exact .error rfl
  · split
    · exact .ok trivial
    · exact .error rfl

theorem shiftOffsetDate_yields (t : Time.OffsetDateTime) (s : Time.Span) :
    Yields (fun _ => True) (shiftOffsetDate t s) :=
  (shiftDate_yields t.clock s).map fun _ _ => trivial

theorem temporalArithmetic_hasType (op : Operation) {l r t : Ty} (h : Temporal l r t)
    {v w : Value} (hv : v.HasType l) (hw : w.HasType r) : HasType (arithmetic op v w) t := by
  cases h with
  | move =>
      obtain ⟨a, rfl⟩ := Value.hasType_dateTime.1 hv
      obtain ⟨s, rfl⟩ := Value.hasType_timeSpan.1 hw
      exact (shiftDate_yields a _).map fun t _ => Value.hasType_dateTime.2 ⟨t, rfl⟩
  | moveOffset =>
      obtain ⟨a, rfl⟩ := Value.hasType_dateTimeOffset.1 hv
      obtain ⟨s, rfl⟩ := Value.hasType_timeSpan.1 hw
      exact (shiftOffsetDate_yields a _).map fun t _ => Value.hasType_dateTimeOffset.2 ⟨t, rfl⟩
  | since =>
      obtain ⟨a, rfl⟩ := Value.hasType_dateTime.1 hv
      obtain ⟨b, rfl⟩ := Value.hasType_dateTime.1 hw
      exact .ok (Value.hasType_timeSpan.2 ⟨_, rfl⟩)
  | sinceOffset =>
      obtain ⟨a, rfl⟩ := Value.hasType_dateTimeOffset.1 hv
      obtain ⟨b, rfl⟩ := Value.hasType_dateTimeOffset.1 hw
      exact .ok (Value.hasType_timeSpan.2 ⟨_, rfl⟩)
  | span =>
      obtain ⟨a, rfl⟩ := Value.hasType_timeSpan.1 hv
      obtain ⟨b, rfl⟩ := Value.hasType_timeSpan.1 hw
      simp only [arithmetic, temporalArithmetic?]
      split
      · exact .ok (Value.hasType_timeSpan.2 ⟨_, rfl⟩)
      · exact .error rfl

theorem arithmetic_hasType {op : Operation} {l r t : Ty} (h : op.Computes l r t) {v w : Value}
    (hv : v.HasType l) (hw : w.HasType r) : HasType (arithmetic op v w) t := by
  cases h with
  | numeric hop hk => exact numericArithmetic_hasType hop hk hv hw
  | temporal h => exact temporalArithmetic_hasType op h hv hw

theorem liftedArithmetic_hasType {op : Operation} {l r t : Ty} (h : op.Computes l r t)
    {lifted : Bool} {v w : Value} (hv : v.HasType (liftTo l lifted))
    (hw : w.HasType (liftTo r lifted)) :
    HasType (if lifted && (v.isNull || w.isNull) then .ok .null else arithmetic op v w)
      (liftTo t lifted) := by
  split
  · rename_i hn
    rw [Bool.and_eq_true] at hn
    obtain ⟨rfl, -⟩ := hn
    exact .ok (Value.null_hasType_liftTo t)
  · rename_i hn
    have hv' : v.HasType l := hv.of_liftTo.resolve_right fun ⟨hl, hnull⟩ =>
      hn (by rw [hl, hnull]; rfl)
    have hw' : w.HasType r := hw.of_liftTo.resolve_right fun ⟨hl, hnull⟩ =>
      hn (by rw [hl, hnull]; exact Bool.or_true _)
    exact (arithmetic_hasType h hv' hw').mono fun w hw => hw.liftTo lifted

theorem binaryOn_hasType {op : Operation} {lifted : Bool} {l r t : Ty}
    (h : op.Gives lifted l r t) (hand : op ≠ .and) (hor : op ≠ .or) {v w : Value}
    (hv : v.HasType l) (hw : w.HasType r) : HasType (binaryOn op lifted v w) t := by
  cases op with
  | and => exact absurd rfl hand
  | or => exact absurd rfl hor
  | concat =>
      obtain rfl := h
      exact .ok (Value.hasType_string.2 (Or.inr ⟨_, rfl⟩))
  | equal | notEqual | lessThan | greaterThan | lessEqual | greaterEqual =>
      obtain rfl := h
      exact .ok (Value.hasType_boolean.2 ⟨_, rfl⟩)
  | add | subtract | multiply | divide | modulo =>
      obtain ⟨l, r, t, h, rfl, rfl, rfl⟩ := h
      exact liftedArithmetic_hasType h hv hw

end Eval

end Elementwise
