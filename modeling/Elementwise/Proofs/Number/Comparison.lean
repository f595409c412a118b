import Elementwise.Number.Basic

/-!
Two numbers of one kind can be compared unless one of them is no number.  For floating point this
rests on the comparison of unpacked numbers: it gives an order to any two of them that are numbers,
and the opposite order to the same two exchanged.
-/

namespace Elementwise.Number

open Float.Model (UnpackedFloat)

/-! ### Floating point -/

theorem unpacked_compare_swap (a b : UnpackedFloat) :
    b.compare a = (a.compare b).map Ordering.swap := by
  cases a with
  | notANumber =>
      cases b with
      | infinity s => cases s <;> rfl
      | finite s => cases s <;> rfl
      | _ => rfl
  | infinity s =>
      cases b with
      | infinity s' => cases s <;> cases s' <;> rfl
      | finite s' => cases s <;> cases s' <;> rfl
      | _ => cases s <;> rfl
  | zero s =>
      cases b with
      | infinity s' => cases s' <;> rfl
      | finite s' => cases s' <;> rfl
      | _ => rfl
  | finite s m e =>
      cases b with
      | infinity s' => cases s <;> cases s' <;> rfl
      | finite s' m' e' =>
          -- the exponents decide, and the mantissas if they are equal
          have horder : (compare e' e).then (compare m' m) =
              ((compare e e').then (compare m m')).swap := by
            rw [Ordering.swap_then, Int.compare_swap, Nat.compare_swap]
          cases s with
          | positive =>
              cases s' with
              | positive => exact congrArg some horder
              | negative => rfl
          | negative =>
              cases s' with
              | positive => rfl
              | negative => exact congrArg (fun o => some o.swap) horder
      | _ => cases s <;> rfl

theorem unpacked_compare_isSome {a b : UnpackedFloat} (ha : a.isNaN = false)
    (hb : b.isNaN = false) : (a.compare b).isSome = true := by
  cases a with
  | notANumber => cases ha
  | infinity s =>
      cases b with
      | notANumber => cases hb
      | _ => cases s <;> rfl
  | zero s =>
      cases b with
      | notANumber => cases hb
      | infinity s' => cases s' <;> rfl
      | zero s' => rfl
      | finite s' => cases s' <;> rfl
  | finite s m e =>
      cases b with
      | notANumber => cases hb
      | infinity s' => cases s <;> cases s' <;> rfl
      | zero s' => cases s <;> rfl
      | finite s' m' e' => cases s <;> cases s' <;> rfl

theorem unpacked_trichotomy {a b : UnpackedFloat} (ha : a.isNaN = false) (hb : b.isNaN = false) :
    a.lt b = true ∨ a.beq b = true ∨ b.lt a = true := by
  obtain ⟨o, ho⟩ := Option.isSome_iff_exists.1 (unpacked_compare_isSome ha hb)
  have hswap := unpacked_compare_swap a b
  rw [ho] at hswap
  show (a.compare b == some .lt) = true ∨ (a.compare b == some .eq) = true ∨
    (b.compare a == some .lt) = true
  rw [ho, hswap]
  cases o with
  | lt => exact Or.inl rfl
  | eq => exact Or.inr (Or.inl rfl)
  | gt => exact Or.inr (Or.inr rfl)

theorem float_trichotomy {a b : Float} (ha : a.isNaN = false) (hb : b.isNaN = false) :
    decide (a < b) = true ∨ (a == b) = true ∨ decide (b < a) = true := by
  rcases unpacked_trichotomy ha hb with h | h | h
  · exact Or.inl (decide_eq_true (decide_eq_true h))
  · exact Or.inr (Or.inl h)
  · exact Or.inr (Or.inr (decide_eq_true (decide_eq_true h)))

theorem float32_trichotomy {a b : Float32} (ha : a.isNaN = false) (hb : b.isNaN = false) :
    decide (a < b) = true ∨ (a == b) = true ∨ decide (b < a) = true := by
  rcases unpacked_trichotomy ha hb with h | h | h
  · exact Or.inl (decide_eq_true (decide_eq_true h))
  · exact Or.inr (Or.inl h)
  · exact Or.inr (Or.inr (decide_eq_true (decide_eq_true h)))

theorem floatCompare?_isSome {lt eq gt : Bool} (h : lt = true ∨ eq = true ∨ gt = true) :
    (floatCompare? lt eq gt).isSome = true := by
  unfold floatCompare?
  rcases h with rfl | rfl | rfl
  · rfl
  · cases lt <;> rfl
  · cases lt <;> cases eq <;> rfl

/-! ### All kinds -/

theorem compare?_isSome {m n : Number} (hk : m.kind = n.kind) (hm : m.isNaN = false)
    (hn : n.isNaN = false) : (m.compare? n).isSome = true := by
  cases m <;> cases n <;> cases hk
  · rfl
  · rw [compare?, if_pos rfl]
    rfl
  · exact floatCompare?_isSome (float32_trichotomy hm hn)
  · exact floatCompare?_isSome (float_trichotomy hm hn)
  · rfl

end Elementwise.Number
