import Elementwise.Proofs.Number.Comparison
import Elementwise.Proofs.Soundness.Builtin

/-!
The mathematical functions give what they promise.
-/

namespace Elementwise

open Number (NumericKind)
open Eval

namespace Builtin

/-! ### Mathematics -/

theorem math_isSound (f : MathFunction) : IsSound (.math f) :=
  isSound_of_takes_one (fun _ => rfl) fun _ _ hv =>
    (doubleArgument_yields rfl hv).bind fun _ _ => .ok (Value.hasType_double.2 ⟨_, rfl⟩)

theorem pow_isSound : IsSound .pow :=
  isSound_of_takes_two (fun _ => rfl) fun _ _ _ hv hw =>
    (doubleArgument_yields rfl hv).bind fun _ _ =>
      (doubleArgument_yields rfl hw).bind fun _ _ => .ok (Value.hasType_double.2 ⟨_, rfl⟩)

theorem atan2_isSound : IsSound .atan2 :=
  isSound_of_takes_two (fun _ => rfl) fun _ _ _ hv hw =>
    (doubleArgument_yields rfl hv).bind fun _ _ =>
      (doubleArgument_yields rfl hw).bind fun _ _ => .ok (Value.hasType_double.2 ⟨_, rfl⟩)

/-- The parameter of a function that keeps a type. -/
theorem eq_of_keeps {expected params : List Ty} {t : Ty} (h : keeps expected params = some t) :
    params = [t] ∧ t ∈ expected := by
  unfold keeps at h
  split at h
  · split at h
    · cases h
      exact ⟨rfl, by assumption⟩
    · cases h
  · cases h

theorem exists_of_mem_signedTypes {t : Ty} (h : t ∈ signedTypes) :
    ∃ k : NumericKind, t = .numeric k ∧ k.signed = true := by
  obtain ⟨k, hk, rfl⟩ := List.mem_map.1 h
  exact ⟨k, rfl, (List.mem_filter.1 hk).2⟩

theorem abs_hasType {v : Value} {k : NumericKind} (hv : v.HasType (.numeric k))
    (hk : k.signed = true) : HasType (Eval.abs v) (.numeric k) := by
  obtain ⟨n, rfl, rfl⟩ := Value.hasType_numeric.1 hv
  cases n with
  | char c => cases hk
  | word k w =>
      have hk' : k.signed = true := hk
      rw [Eval.abs, if_pos hk']
      split
      · exact .ok (Value.hasType_word.2 ⟨_, rfl⟩)
      · exact .error rfl
  | single x => exact .ok (Value.hasType_single.2 ⟨_, rfl⟩)
  | double x => exact .ok (Value.hasType_double.2 ⟨_, rfl⟩)
  | decimal d => exact .ok (Value.hasType_decimal.2 ⟨_, rfl⟩)

theorem abs_isSound : IsSound .abs := by
  intro args params t given ht hargs _
  obtain ⟨rfl, hmem⟩ := eq_of_keeps ht
  obtain ⟨k, rfl, hk⟩ := exists_of_mem_signedTypes hmem
  obtain ⟨v, rfl, hv⟩ := arguments_one hargs
  exact abs_hasType hv hk

theorem floatSign_hasType (x : Float) : HasType (floatSign x) .int32 := by
  rw [floatSign]
  split
  · exact .error rfl
  · exact .ok (Value.hasType_word.2 ⟨_, rfl⟩)

theorem sign_hasType {v : Value} {k : NumericKind} (hv : v.HasType (.numeric k))
    (hk : k.signed = true) : HasType (Eval.sign v) .int32 := by
  obtain ⟨n, rfl, rfl⟩ := Value.hasType_numeric.1 hv
  cases n with
  | char c => cases hk
  | word k w =>
      have hk' : k.signed = true := hk
      rw [Eval.sign, if_pos hk']
      exact .ok (Value.hasType_word.2 ⟨_, rfl⟩)
  | single x => exact floatSign_hasType _
  | double x => exact floatSign_hasType x
  | decimal d => exact .ok (Value.hasType_word.2 ⟨_, rfl⟩)

theorem sign_isSound : IsSound .sign := by
  intro args params t given ht hargs _
  obtain ⟨s, hs, rfl⟩ := Option.map_eq_some_iff.1 ht
  obtain ⟨rfl, hmem⟩ := eq_of_keeps hs
  obtain ⟨k, rfl, hk⟩ := exists_of_mem_signedTypes hmem
  obtain ⟨v, rfl, hv⟩ := arguments_one hargs
  exact sign_hasType hv hk

theorem toIntegral_hasType {v : Value} {t : Ty} (r : Number.Rounding)
    (onDecimal : Decimal → Option Decimal) (hv : v.HasType t) (ht : t ∈ realTypes) :
    HasType (toIntegral r onDecimal v) t := by
  rcases List.mem_cons.1 ht with rfl | ht
  · obtain ⟨x, rfl⟩ := Value.hasType_double.1 hv
    exact .ok (Value.hasType_double.2 ⟨_, rfl⟩)
  · obtain rfl := List.mem_singleton.1 ht
    obtain ⟨d, rfl⟩ := Value.hasType_decimal.1 hv
    simp only [Value.decimal, toIntegral]
    split
    · exact .ok (Value.hasType_decimal.2 ⟨_, rfl⟩)
    · exact .error rfl

theorem floor_isSound : IsSound .floor := by
  intro args params t given ht hargs _
  obtain ⟨rfl, hmem⟩ := eq_of_keeps ht
  obtain ⟨v, rfl, hv⟩ := arguments_one hargs
  exact toIntegral_hasType .down Decimal.floor? hv hmem

theorem ceiling_isSound : IsSound .ceiling := by
  intro args params t given ht hargs _
  obtain ⟨rfl, hmem⟩ := eq_of_keeps ht
  obtain ⟨v, rfl, hv⟩ := arguments_one hargs
  exact toIntegral_hasType .up Decimal.ceiling? hv hmem

theorem truncate_isSound : IsSound .truncate := by
  intro args params t given ht hargs _
  obtain ⟨rfl, hmem⟩ := eq_of_keeps ht
  obtain ⟨v, rfl, hv⟩ := arguments_one hargs
  exact toIntegral_hasType .toZero (some ·.truncate) hv hmem

theorem round_hasType {v : Value} {t : Ty} (digits : Int) (hv : v.HasType t)
    (ht : t ∈ realTypes) : HasType (Eval.round v digits) t := by
  rcases List.mem_cons.1 ht with rfl | ht
  · obtain ⟨x, rfl⟩ := Value.hasType_double.1 hv
    exact .ite (.error rfl) (.ok (Value.hasType_double.2 ⟨_, rfl⟩))
  · obtain rfl := List.mem_singleton.1 ht
    obtain ⟨d, rfl⟩ := Value.hasType_decimal.1 hv
    exact .ite (.error rfl) (.ok (Value.hasType_decimal.2 ⟨_, rfl⟩))

theorem round_isSound : IsSound .round := by
  intro args params t given ht hargs _
  simp only [result?] at ht
  split at ht
  · obtain ⟨h, hmem⟩ := eq_of_keeps ht
    obtain rfl := List.singleton_inj.1 h
    obtain ⟨v, w, rfl, hv, hw⟩ := arguments_two hargs
    obtain ⟨digits, rfl⟩ := Value.hasType_word.1 hw
    exact round_hasType digits.val hv hmem
  · obtain ⟨rfl, hmem⟩ := eq_of_keeps ht
    obtain ⟨v, rfl, hv⟩ := arguments_one hargs
    exact round_hasType 0 hv hmem

theorem hasType_ite {v w : Value} {t : Ty} {c : Prop} [Decidable c] (hv : v.HasType t)
    (hw : w.HasType t) : (if c then v else w).HasType t := by
  split
  · exact hv
  · exact hw

/-- Two numbers of one kind are unordered only where one of them is no number. -/
theorem maxOrMin_hasType {v w : Value} {k : NumericKind} (largest : Bool)
    (hv : v.HasType (.numeric k)) (hw : w.HasType (.numeric k)) :
    HasType (maxOrMin v w largest) (.numeric k) := by
  obtain ⟨m, rfl, rfl⟩ := Value.hasType_numeric.1 hv
  obtain ⟨n, rfl, hk⟩ := Value.hasType_numeric.1 hw
  rw [maxOrMin]
  split
  · exact .ok hv
  · split
    · exact .ok hw
    · rename_i hm hn
      have h := Number.compare?_isSome hk.symm (Bool.eq_false_iff.2 hm) (Bool.eq_false_iff.2 hn)
      obtain ⟨o, ho⟩ := Option.isSome_iff_exists.1 h
      rw [Value.compare?, ho]
      exact .ok (hasType_ite hv hw)

/-- The parameters of a function of two numbers of one kind. -/
theorem eq_of_ofTwoNumbers {params : List Ty} {t : Ty} (h : ofTwoNumbers params = some t) :
    ∃ k : NumericKind, params = [.numeric k, .numeric k] ∧ t = .numeric k := by
  unfold ofTwoNumbers at h
  split at h
  · split at h
    · rename_i k hk
      cases h
      exact ⟨k, by rw [hk.1], rfl⟩
    · cases h
  · cases h

theorem max_isSound : IsSound .max := by
  intro args params t given ht hargs _
  obtain ⟨k, rfl, rfl⟩ := eq_of_ofTwoNumbers ht
  obtain ⟨v, w, rfl, hv, hw⟩ := arguments_two hargs
  exact maxOrMin_hasType true hv hw

theorem min_isSound : IsSound .min := by
  intro args params t given ht hargs _
  obtain ⟨k, rfl, rfl⟩ := eq_of_ofTwoNumbers ht
  obtain ⟨v, w, rfl, hv, hw⟩ := arguments_two hargs
  exact maxOrMin_hasType false hv hw

end Builtin

end Elementwise
