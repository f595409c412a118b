import Elementwise.Proofs.Nullable.Conversion

/-!
Implicit conversions order the types.  `Convertible` says, one constructor for each rule, which types
are taken for which; by induction over it the rules compose (numbers that widen, then become nullable
or objects, and arrays whose items convert), and no two types convert to each other.
-/

namespace Elementwise

/-! ### Numeric kinds -/

namespace Number

theorem WordKind.eq_of_bounds {a b : WordKind} (hmin : a.min = b.min) (hmax : a.max = b.max) :
    a = b := by
  revert hmin hmax
  cases a <;> cases b <;> decide

namespace NumericKind

theorem wordWidens_iff {a b : WordKind} :
    wordWidens a b = true ↔ b.min ≤ a.min ∧ a.max ≤ b.max := by
  rw [wordWidens, Bool.and_eq_true, decide_eq_true_iff, decide_eq_true_iff]

theorem wordWidens_trans {a b c : WordKind} (h₁ : wordWidens a b = true)
    (h₂ : wordWidens b c = true) : wordWidens a c = true := by
  rw [wordWidens_iff] at *
  exact ⟨Int.le_trans h₂.1 h₁.1, Int.le_trans h₁.2 h₂.2⟩

theorem wordWidens_antisymm {a b : WordKind} (h₁ : wordWidens a b = true)
    (h₂ : wordWidens b a = true) : a = b := by
  rw [wordWidens_iff] at h₁ h₂
  exact WordKind.eq_of_bounds (Int.le_antisymm h₂.1 h₁.1) (Int.le_antisymm h₁.2 h₂.2)

theorem widensTo_trans {i j k : NumericKind} (h₁ : i.widensTo j = true)
    (h₂ : j.widensTo k = true) : i.widensTo k = true := by
  cases j with
  | char =>
      cases i with
      | char => exact h₂
      | _ => cases h₁
  | word b =>
      cases k with
      | char => cases h₂
      | word c =>
          cases i with
          | char | word a => exact wordWidens_trans h₁ h₂
          | _ => cases h₁
      | _ =>
          cases i with
          | char | word a => rfl
          | _ => cases h₁
  | single =>
      cases k with
      | single => exact h₁
      | double =>
          cases i with
          | char | word a | single => rfl
          | _ => cases h₁
      | _ => cases h₂
  | double | decimal =>
      cases eq_of_beq h₂
      exact h₁

theorem widensTo_antisymm {j k : NumericKind} (h₁ : j.widensTo k = true)
    (h₂ : k.widensTo j = true) : j = k := by
  cases j with
  | char =>
      cases k with
      | char => rfl
      | _ => cases h₂
  | word a =>
      cases k with
      | char => cases h₁
      | word b => exact congrArg word (wordWidens_antisymm h₁ h₂)
      | _ => cases h₂
  | single =>
      cases k with
      | single => rfl
      | double => cases h₂
      | _ => cases h₁
  | double | decimal => exact eq_of_beq h₁

end NumericKind

end Number

open Number (NumericKind)

namespace Typing

variable {s t u : Ty} {j k : NumericKind}

/-! ### The relation -/

/-- Values of the first type are taken where values of the second are expected. -/
inductive Convertible : Ty → Ty → Prop where
  | refl {t : Ty} : Convertible t t
  | null {t : Ty} (h : t.acceptsNull = true) : Convertible .null t
  | object {s : Ty} : Convertible s .object
  | numeric {j k : NumericKind} (h : j.widensTo k = true) : Convertible (.numeric j) (.numeric k)
  | lifted {j k : NumericKind} (h : j.widensTo k = true) :
    Convertible (.nullable (.numeric j)) (.nullable (.numeric k))
  | nullable {s t : Ty} (hs : s.isValueType = true) (h : Convertible s t) :
    Convertible s (.nullable t)
  | array {s t : Ty} (hs : s.isReference = true) (ht : t.isReference = true)
    (h : Convertible s t) : Convertible (.array s) (.array t)
  /-- an array is taken for a sequence where it is taken for the array of the items -/
  | listed {s t : Ty} (h : Convertible (.array s) (.array t)) : Convertible (.array s) (.sequence t)
  | sequence {s t : Ty} (h : Convertible (.array s) (.array t)) :
    Convertible (.sequence s) (.sequence t)

namespace Convertible

theorem eq_null (h : Convertible s .null) : s = .null := by
  cases h <;> rfl

theorem eq_object (h : Convertible .object t) : t = .object := by
  cases h with
  | refl | object => rfl
  | nullable hs => cases hs

/-- Nothing but value types converts to a value type. -/
theorem isValueType (h : Convertible s t) (ht : t.isValueType = true) : s.isValueType = true := by
  cases h with
  | refl => exact ht
  | numeric => rfl
  | null h =>
      rw [acceptsNull_of_isValueType ht] at h
      cases h
  | _ => cases ht

theorem toSequence (h : Convertible s (.array t)) : Convertible s (.sequence t) := by
  cases h with
  | refl => exact .listed .refl
  | null => exact .null rfl
  | array hs ht h => exact .listed (.array hs ht h)

theorem trans (h₁ : Convertible s t) (h₂ : Convertible t u) : Convertible s u := by
  induction h₂ generalizing s with
  | refl => exact h₁
  | null h => exact h₁.eq_null ▸ .null h
  | object => exact .object
  | numeric h =>
      cases h₁ with
      | refl => exact .numeric h
      | numeric h' => exact .numeric (NumericKind.widensTo_trans h' h)
      | null h' => cases h'
  | lifted h =>
      cases h₁ with
      | refl => exact .lifted h
      | null => exact .null rfl
      | lifted h' => exact .lifted (NumericKind.widensTo_trans h' h)
      | nullable hs h' =>
          -- a number that widened before it became nullable
          refine .nullable hs ?_
          cases h' with
          | refl => exact .numeric h
          | numeric h' => exact .numeric (NumericKind.widensTo_trans h' h)
          | null => cases hs
  | nullable ht _ ih => exact .nullable (h₁.isValueType ht) (ih h₁)
  | array ht hu h ih =>
      cases h₁ with
      | refl => exact .array ht hu h
      | null => exact .null rfl
      | array hs _ h' => exact .array hs hu (ih h')
  | listed _ ih => exact (ih h₁).toSequence
  | sequence h ih =>
      cases h₁ with
      | refl => exact .sequence h
      | null => exact .null rfl
      | listed h' => exact .listed (ih h')
      | sequence h' => exact .sequence (ih h')

theorem antisymm (h₁ : Convertible s t) (h₂ : Convertible t s) : s = t := by
  induction h₁ with
  | refl => rfl
  | null => exact h₂.eq_null.symm
  | object => exact h₂.eq_object
  | numeric h =>
      cases h₂ with
      | refl => rfl
      | numeric h' => exact congrArg Ty.numeric (NumericKind.widensTo_antisymm h h')
  | lifted h =>
      cases h₂ with
      | refl => rfl
      | lifted h' =>
          exact congrArg (Ty.nullable ∘ Ty.numeric) (NumericKind.widensTo_antisymm h h')
      | nullable hs => cases hs
  | nullable hs => cases h₂.isValueType hs
  | array _ _ _ ih =>
      cases h₂ with
      | refl => rfl
      | array _ _ h' => exact congrArg Ty.array (ih h')
  | listed => cases h₂
  | sequence _ ih =>
      cases h₂ with
      | refl => rfl
      | sequence h' => exact congrArg Ty.sequence (Ty.array.inj (ih h'))

end Convertible

/-! ### Implicit conversions -/

theorem isImplicit_self (t : Ty) : isImplicit t t = true := by
  rw [isImplicit, implicitSteps?.eq_def, if_pos rfl]
  rfl

theorem isImplicit_null (h : t.acceptsNull = true) : isImplicit .null t = true := by
  rw [isImplicit, implicitSteps?.eq_def]
  simp only [h, if_true]
  split <;> rfl

theorem isImplicit_object (s : Ty) : isImplicit s .object = true := by
  rw [isImplicit, implicitSteps?.eq_def]
  simp only [if_true]
  split
  · rfl
  split <;> rfl

theorem isSome_widening?_iff : (widening? s t).isSome = true ↔
    ∃ j k, s = .numeric j ∧ t = .numeric k ∧ j.widensTo k = true := by
  constructor
  · intro h
    obtain ⟨k, hk⟩ := Option.isSome_iff_exists.1 h
    obtain ⟨⟨j, rfl⟩, rfl⟩ := eq_numeric_of_widening? hk
    refine ⟨j, k, rfl, rfl, ?_⟩
    cases hjk : j.widensTo k with
    | true => rfl
    | false => simp [widening?, Ty.numericKind?, hjk] at hk
  · rintro ⟨j, k, rfl, rfl, hjk⟩
    simp [widening?, Ty.numericKind?, hjk]

theorem isImplicit_numeric :
    isImplicit (.numeric j) (.numeric k) = true ↔ j = k ∨ j.widensTo k = true := by
  rw [isImplicit, implicitSteps?_of_isValueType rfl]
  by_cases h : j = k
  · simp [h]
  · simp [h, isSome_widening?_iff]

theorem isImplicit_nullable_nullable : isImplicit (.nullable s) (.nullable t) = true ↔
    s = t ∨ ∃ j k, s = .numeric j ∧ t = .numeric k ∧ j.widensTo k = true := by
  rw [isImplicit, implicitSteps?_nullable_nullable]
  by_cases h : s = t
  · simp [h]
  · simp [h, isSome_widening?_iff]

theorem isImplicit_nullable (hs : s.isValueType = true) :
    isImplicit s (.nullable t) = isImplicit s t := by
  rw [isImplicit, implicitSteps?_nullable hs, Option.isSome_map, isImplicit]

theorem isImplicit_array : isImplicit (.array s) (.array t) = true ↔
    s = t ∨ s.isReference = true ∧ t.isReference = true ∧ isImplicit s t = true := by
  rw [isImplicit, implicitSteps?.eq_def]
  by_cases h : s = t
  · simp [h]
  · simp [h, isImplicit, and_assoc]

theorem isImplicit_listed :
    isImplicit (.array s) (.sequence t) = isImplicit (.array s) (.array t) := by
  rw [Bool.eq_iff_iff, isImplicit_array, isImplicit, implicitSteps?.eq_def]
  by_cases h : s = t
  · simp [h]
  · simp [h, isImplicit, and_assoc]

theorem isImplicit_sequence :
    isImplicit (.sequence s) (.sequence t) = isImplicit (.array s) (.array t) := by
  rw [Bool.eq_iff_iff, isImplicit_array, isImplicit, implicitSteps?.eq_def]
  by_cases h : s = t
  · simp [h]
  · simp [h, isImplicit, and_assoc]

theorem Convertible.isImplicit (h : Convertible s t) : isImplicit s t = true := by
  induction h with
  | refl => exact isImplicit_self _
  | null h => exact isImplicit_null h
  | object => exact isImplicit_object _
  | numeric h => exact isImplicit_numeric.2 (Or.inr h)
  | lifted h => exact isImplicit_nullable_nullable.2 (Or.inr ⟨_, _, rfl, rfl, h⟩)
  | nullable hs _ ih => rwa [isImplicit_nullable hs]
  | array hs ht _ ih => exact isImplicit_array.2 (Or.inr ⟨hs, ht, ih⟩)
  | listed _ ih => rwa [isImplicit_listed]
  | sequence _ ih => rwa [isImplicit_sequence]

theorem convertible_array (ih : ∀ s, isImplicit s t = true → Convertible s t)
    (h : isImplicit (.array s) (.array t) = true) : Convertible (.array s) (.array t) := by
  rcases isImplicit_array.1 h with rfl | ⟨hs, ht, hst⟩
  · exact .refl
  · exact .array hs ht (ih s hst)

/-- The recursion is that of the conversion, on the target; the types that no rule leads to are
left to the cases in which the conversion is none by computation. -/
theorem convertible_of_isImplicit : (t s : Ty) → isImplicit s t = true → Convertible s t
  | .object, _, _ => .object
  | .numeric k, s, h => by
      cases s with
      | numeric j =>
          rcases isImplicit_numeric.1 h with rfl | hjk
          · exact .refl
          · exact .numeric hjk
      | _ => cases h
  | .nullable t, s, h => by
      cases s with
      | null => exact .null rfl
      | nullable s =>
          rcases isImplicit_nullable_nullable.1 h with rfl | ⟨j, k, rfl, rfl, hjk⟩
          · exact .refl
          · exact .lifted hjk
      | boolean | numeric | dateTime | dateTimeOffset | timeSpan | guid | dayOfWeek =>
          rw [isImplicit_nullable rfl] at h
          exact .nullable rfl (convertible_of_isImplicit t _ h)
      | _ => cases h
  | .array t, s, h => by
      cases s with
      | null => exact .null rfl
      | array s => exact convertible_array (convertible_of_isImplicit t) h
      | _ => cases h
  | .sequence t, s, h => by
      cases s with
      | null => exact .null rfl
      | array s =>
          rw [isImplicit_listed] at h
          exact .listed (convertible_array (convertible_of_isImplicit t) h)
      | sequence s =>
          rw [isImplicit_sequence] at h
          exact .sequence (convertible_array (convertible_of_isImplicit t) h)
      | _ => cases h
  | .string, s, h => by
      cases s with
      | null => exact .null rfl
      | string => exact .refl
      | _ => cases h
  | .record fields, s, h => by
      cases s with
      | null => exact .null rfl
      | record fields' =>
          rcases isImplicit_cases h rfl with heq | ⟨hnull, -⟩ | hobj | ⟨_, _, hitems, -⟩
          · exact heq ▸ .refl
          · cases hnull
          · cases hobj
          · rcases hitems with ⟨hs, -⟩ | ⟨hs, -⟩ <;> cases hs
      | _ => cases h
  | .null, s, h | .boolean, s, h | .dateTime, s, h | .dateTimeOffset, s, h | .timeSpan, s, h
  | .guid, s, h | .dayOfWeek, s, h => by
      cases s with
      | _ => first | exact .refl | cases h

theorem isImplicit_iff : isImplicit s t = true ↔ Convertible s t :=
  ⟨convertible_of_isImplicit t s, Convertible.isImplicit⟩

theorem isImplicit_trans (h₁ : isImplicit s t = true) (h₂ : isImplicit t u = true) :
    isImplicit s u = true :=
  ((isImplicit_iff.1 h₁).trans (isImplicit_iff.1 h₂)).isImplicit

theorem isImplicit_antisymm (h₁ : isImplicit s t = true) (h₂ : isImplicit t s = true) : s = t :=
  (isImplicit_iff.1 h₁).antisymm (isImplicit_iff.1 h₂)

end Typing

end Elementwise
