import Elementwise.Eval.Conversion
import Elementwise.Proofs.Soundness.Outcome

/-!
Conversions lead to the type they are asked for.  A number that does not fit there, a text that does
not spell a value and a value without such a conversion are faults that an element can cause.
-/

namespace Elementwise.Eval

open Number (NumericKind float? float32?)

/-! ### Numbers -/

/-- A number of the kind or an ordinary fault. -/
abbrev HasKind (o : Except Fault Number) (k : NumericKind) : Prop :=
  Yields (·.kind = k) o

theorem HasKind.hasType {o : Except Fault Number} {k : NumericKind} (h : HasKind o k) :
    HasType (o.map .number) (.numeric k) :=
  h.map fun n hn => Value.hasType_numeric.2 ⟨n, rfl, hn⟩

theorem wrapInt_hasKind (i : Int) (k : NumericKind) : HasKind (wrapInt i k) k := by
  cases k with
  | char =>
      rw [wrapInt]
      split
      · exact .ok rfl
      · exact .error rfl
  | decimal =>
      rw [wrapInt, decimalOfInt]
      split
      · exact .ok rfl
      · exact .error rfl
  | _ => exact .ok rfl

theorem checkInt_hasKind (i : Int) (k : NumericKind) : HasKind (checkInt i k) k := by
  cases k with
  | char =>
      rw [checkInt]
      split
      · exact .ok rfl
      · exact .error rfl
  | word k =>
      rw [checkInt]
      split
      · exact .ok rfl
      · exact .error rfl
  | single => exact wrapInt_hasKind i .single
  | double => exact wrapInt_hasKind i .double
  | decimal => exact wrapInt_hasKind i .decimal

theorem ofFloat_hasKind (x : Float) (source k : NumericKind) (checked : Bool) :
    HasKind (ofFloat x source k checked) k := by
  cases k with
  | single => exact .ok rfl
  | double => exact .ok rfl
  | decimal =>
      simp only [ofFloat]
      split
      · exact .ok rfl
      · exact .error rfl
  | char =>
      rw [ofFloat]
      split
      · exact .error rfl
      · exact wrapInt_hasKind _ _
  | word k =>
      rw [ofFloat]
      split
      · split
        · exact checkInt_hasKind _ _
        · exact .error rfl
      · exact wrapInt_hasKind _ _

theorem ofDecimal_hasKind (d : Decimal) (k : NumericKind) (checked : Bool) :
    HasKind (ofDecimal d k checked) k := by
  cases k with
  | char =>
      rw [ofDecimal]
      split
      · exact .error rfl
      · exact checkInt_hasKind _ _
  | word k => exact checkInt_hasKind _ _
  | _ => exact .ok rfl

theorem castNumber_hasKind (n : Number) (k : NumericKind) : HasKind (castNumber n k) k := by
  cases n with
  | char c => exact wrapInt_hasKind _ _
  | word j w => exact wrapInt_hasKind _ _
  | single x => exact ofFloat_hasKind _ _ _ _
  | double x => exact ofFloat_hasKind _ _ _ _
  | decimal d => exact ofDecimal_hasKind _ _ _

theorem convertNumber_hasKind (n : Number) (k : NumericKind) : HasKind (convertNumber n k) k := by
  cases n with
  | char c =>
      rw [convertNumber]
      split
      · exact checkInt_hasKind _ _
      · exact .error rfl
  | word j w => exact checkInt_hasKind _ _
  | single x => exact ofFloat_hasKind _ _ _ _
  | double x => exact ofFloat_hasKind _ _ _ _
  | decimal d => exact ofDecimal_hasKind _ _ _

/-! ### Values -/

/-- A cast of any value; one that is no number faults. -/
theorem cast_hasType (v : Value) (k : NumericKind) : HasType (cast v k) (.numeric k) := by
  cases v with
  | number n => exact (castNumber_hasKind n k).hasType
  | _ => exact .error rfl

theorem parse_hasType (text : String) (k : NumericKind) :
    HasType (parse text k) (.numeric k) := by
  cases k with
  | char =>
      rw [parse]
      split
      · exact .ok (Value.hasType_char.2 ⟨_, rfl⟩)
      · exact .error rfl
  | word k =>
      rw [parse]
      split
      · exact (checkInt_hasKind _ _).hasType
      · exact .error rfl
  | single =>
      simp only [parse]
      cases float32? (Text.trim text.toList) with
      | some x => exact .ok (Value.hasType_single.2 ⟨x, rfl⟩)
      | none => exact .error rfl
  | double =>
      simp only [parse]
      cases float? (Text.trim text.toList) with
      | some x => exact .ok (Value.hasType_double.2 ⟨x, rfl⟩)
      | none => exact .error rfl
  | decimal =>
      simp only [parse]
      cases Decimal.parse? (Text.trim text.toList) with
      | some d => exact .ok (Value.hasType_decimal.2 ⟨d, rfl⟩)
      | none => exact .error rfl

theorem convert_hasType (v : Value) (k : NumericKind) : HasType (convert v k) (.numeric k) := by
  cases v with
  | null => exact .ok (Value.default_hasType (.numeric k))
  | boolean b =>
      rw [convert]
      split
      · exact .error rfl
      · exact (wrapInt_hasKind _ _).hasType
  | number n => exact (convertNumber_hasKind n k).hasType
  | string s => exact parse_hasType s k
  | _ => exact .error rfl

theorem toBoolean_hasType (v : Value) : HasType (toBoolean v) .boolean := by
  cases v with
  | string s =>
      simp only [toBoolean]
      split
      · exact .ok (Value.hasType_boolean.2 ⟨_, rfl⟩)
      · split
        · exact .ok (Value.hasType_boolean.2 ⟨_, rfl⟩)
        · exact .error rfl
  | number n =>
      cases n with
      | char c => exact .error rfl
      | _ => exact .ok (Value.hasType_boolean.2 ⟨_, rfl⟩)
  | null => exact .ok (Value.hasType_boolean.2 ⟨_, rfl⟩)
  | boolean b => exact .ok (Value.hasType_boolean.2 ⟨_, rfl⟩)
  | _ => exact .error rfl

end Elementwise.Eval
