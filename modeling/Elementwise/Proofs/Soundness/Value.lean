import Elementwise.Value.Basic
import Mathlib.Data.List.Forall2

/-!
What it means that a value has a type.  Conforming looks at the outside of a record only: a record
conforms to its type whatever its fields hold.  A value is well formed if every record inside it
holds one conforming value for each of its fields.  Both together are what evaluation preserves, and
for each type they say which forms its values have.
-/

namespace Elementwise

open Number (NumericKind Word WordKind)

namespace Value

/-! ### Well-formed values -/

/-- Whether there is one value for each field, and each conforms to the type of its field. -/
def fillsFields : List (String × Ty) → List Value → Bool
  | [], [] => true
  | (_, t) :: fields, v :: values => v.conformsTo t && fillsFields fields values
  | _, _ => false

mutual

/-- Whether every record inside a value, at any depth, fills its fields. -/
def isWellFormed : Value → Bool
  | array items => areWellFormed items
  | record fields values => fillsFields fields values && areWellFormed values
  | _ => true

def areWellFormed : List Value → Bool
  | [] => true
  | v :: vs => isWellFormed v && areWellFormed vs

end

theorem areWellFormed_iff {vs : List Value} :
    areWellFormed vs = true ↔ ∀ v ∈ vs, v.isWellFormed = true := by
  induction vs with
  | nil => simp [areWellFormed]
  | cons v vs ih => simp [areWellFormed, ih]

/-- The value may flow where the type is expected, and what its records hold fits their fields. -/
structure HasType (v : Value) (t : Ty) : Prop where
  conforms : v.conformsTo t = true
  wellFormed : v.isWellFormed = true

/-! ### Forms of the values of a type

For types whose values have no parts, conforming decides the form, and being well formed adds
nothing. -/

theorem null_conformsTo (t : Ty) : null.conformsTo t = t.acceptsNull := by
  cases t <;> rfl

theorem null_hasType {t : Ty} : null.HasType t ↔ t.acceptsNull = true := by
  rw [← null_conformsTo]
  exact ⟨fun h => h.conforms, fun h => ⟨h, rfl⟩⟩

theorem hasType_object {v : Value} : v.HasType .object ↔ v.isWellFormed = true :=
  ⟨fun h => h.wellFormed, fun h => ⟨by rw [conformsTo], h⟩⟩

theorem hasType_null {v : Value} : v.HasType .null ↔ v = null := by
  constructor
  · rintro ⟨h, -⟩
    cases v <;> first | rfl | cases h
  · rintro rfl
    exact ⟨rfl, rfl⟩

theorem hasType_nullable {v : Value} {t : Ty} :
    v.HasType (.nullable t) ↔ v = null ∨ v.HasType t := by
  constructor
  · rintro ⟨h, hw⟩
    rw [conformsTo, Bool.or_eq_true] at h
    rcases h with h | h
    · cases v <;> first | exact Or.inl rfl | cases h
    · exact Or.inr ⟨h, hw⟩
  · rintro (rfl | ⟨h, hw⟩)
    · exact ⟨rfl, rfl⟩
    · exact ⟨by rw [conformsTo, h, Bool.or_true], hw⟩

theorem hasType_boolean {v : Value} : v.HasType .boolean ↔ ∃ b, v = boolean b := by
  constructor
  · rintro ⟨h, -⟩
    cases v <;> first | exact ⟨_, rfl⟩ | cases h
  · rintro ⟨b, rfl⟩
    exact ⟨rfl, rfl⟩

theorem hasType_numeric {v : Value} {k : NumericKind} :
    v.HasType (.numeric k) ↔ ∃ n, v = number n ∧ n.kind = k := by
  constructor
  · rintro ⟨h, -⟩
    cases v with
    | number n => exact ⟨n, rfl, eq_of_beq h⟩
    | _ => cases h
  · rintro ⟨n, rfl, rfl⟩
    exact ⟨beq_self_eq_true n.kind, rfl⟩

theorem hasType_char {v : Value} : v.HasType .char ↔ ∃ c, v = char c := by
  rw [hasType_numeric]
  constructor
  · rintro ⟨n, rfl, h⟩
    cases n <;> first | exact ⟨_, rfl⟩ | cases h
  · rintro ⟨c, rfl⟩
    exact ⟨_, rfl, rfl⟩

theorem hasType_word {v : Value} {k : WordKind} :
    v.HasType (.word k) ↔ ∃ w : Word k, v = number (.word k w) := by
  rw [hasType_numeric]
  constructor
  · rintro ⟨n, rfl, h⟩
    cases n with
    | word j w => cases h; exact ⟨w, rfl⟩
    | _ => cases h
  · rintro ⟨w, rfl⟩
    exact ⟨_, rfl, rfl⟩

theorem hasType_single {v : Value} : v.HasType .single ↔ ∃ x, v = single x := by
  rw [hasType_numeric]
  constructor
  · rintro ⟨n, rfl, h⟩
    cases n <;> first | exact ⟨_, rfl⟩ | cases h
  · rintro ⟨x, rfl⟩
    exact ⟨_, rfl, rfl⟩

theorem hasType_double {v : Value} : v.HasType .double ↔ ∃ x, v = double x := by
  rw [hasType_numeric]
  constructor
  · rintro ⟨n, rfl, h⟩
    cases n <;> first | exact ⟨_, rfl⟩ | cases h
  · rintro ⟨x, rfl⟩
    exact ⟨_, rfl, rfl⟩

theorem hasType_decimal {v : Value} : v.HasType .decimal ↔ ∃ d, v = decimal d := by
  rw [hasType_numeric]
  constructor
  · rintro ⟨n, rfl, h⟩
    cases n <;> first | exact ⟨_, rfl⟩ | cases h
  · rintro ⟨d, rfl⟩
    exact ⟨_, rfl, rfl⟩

theorem hasType_string {v : Value} : v.HasType .string ↔ v = null ∨ ∃ s, v = string s := by
  constructor
  · rintro ⟨h, -⟩
    cases v <;> first | exact Or.inl rfl | exact Or.inr ⟨_, rfl⟩ | cases h
  · rintro (rfl | ⟨s, rfl⟩) <;> exact ⟨rfl, rfl⟩

theorem hasType_dateTime {v : Value} : v.HasType .dateTime ↔ ∃ t, v = dateTime t := by
  constructor
  · rintro ⟨h, -⟩
    cases v <;> first | exact ⟨_, rfl⟩ | cases h
  · rintro ⟨t, rfl⟩
    exact ⟨rfl, rfl⟩

theorem hasType_dateTimeOffset {v : Value} :
    v.HasType .dateTimeOffset ↔ ∃ t, v = dateTimeOffset t := by
  constructor
  · rintro ⟨h, -⟩
    cases v <;> first | exact ⟨_, rfl⟩ | cases h
  · rintro ⟨t, rfl⟩
    exact ⟨rfl, rfl⟩

theorem hasType_timeSpan {v : Value} : v.HasType .timeSpan ↔ ∃ s, v = timeSpan s := by
  constructor
  · rintro ⟨h, -⟩
    cases v <;> first | exact ⟨_, rfl⟩ | cases h
  · rintro ⟨s, rfl⟩
    exact ⟨rfl, rfl⟩

theorem hasType_guid {v : Value} : v.HasType .guid ↔ ∃ g, v = guid g := by
  constructor
  · rintro ⟨h, -⟩
    cases v <;> first | exact ⟨_, rfl⟩ | cases h
  · rintro ⟨g, rfl⟩
    exact ⟨rfl, rfl⟩

theorem hasType_dayOfWeek {v : Value} : v.HasType .dayOfWeek ↔ ∃ w, v = dayOfWeek w := by
  constructor
  · rintro ⟨h, -⟩
    cases v <;> first | exact ⟨_, rfl⟩ | cases h
  · rintro ⟨w, rfl⟩
    exact ⟨rfl, rfl⟩

/-! ### Arrays and records -/

theorem array_hasType_array {items : List Value} {t : Ty} :
    (array items).HasType (.array t) ↔ ∀ v ∈ items, v.HasType t := by
  constructor
  · rintro ⟨h, hw⟩ v hv
    rw [conformsTo, List.all_eq_true] at h
    rw [isWellFormed, areWellFormed_iff] at hw
    exact ⟨h v hv, hw v hv⟩
  · intro h
    refine ⟨?_, ?_⟩
    · rw [conformsTo, List.all_eq_true]
      exact fun v hv => (h v hv).conforms
    · rw [isWellFormed, areWellFormed_iff]
      exact fun v hv => (h v hv).wellFormed

theorem array_hasType_sequence {items : List Value} {t : Ty} :
    (array items).HasType (.sequence t) ↔ ∀ v ∈ items, v.HasType t := by
  rw [← array_hasType_array]
  exact ⟨fun h => ⟨h.conforms, h.wellFormed⟩, fun h => ⟨h.conforms, h.wellFormed⟩⟩

/-- A value of a type with items is `null` or an array of values of the item type. -/
theorem HasType.items {v : Value} {s t : Ty} (h : v.HasType s) (hs : s.element? = some t) :
    v = null ∨ ∃ items, v = array items ∧ ∀ x ∈ items, x.HasType t := by
  cases s with
  | array t' =>
      cases hs
      cases v with
      | null => exact Or.inl rfl
      | array items => exact Or.inr ⟨items, rfl, array_hasType_array.1 h⟩
      | _ => cases h.conforms
  | sequence t' =>
      cases hs
      cases v with
      | null => exact Or.inl rfl
      | array items => exact Or.inr ⟨items, rfl, array_hasType_sequence.1 h⟩
      | _ => cases h.conforms
  | _ => cases hs

theorem record_hasType {fields : List (String × Ty)} {values : List Value}
    (h : List.Forall₂ (fun f v => v.HasType f.2) fields values) :
    (record fields values).HasType (.record fields) := by
  refine ⟨by simp [conformsTo], ?_⟩
  rw [isWellFormed, Bool.and_eq_true, areWellFormed_iff]
  induction h with
  | nil => exact ⟨rfl, by simp⟩
  | cons hv _ ih =>
      refine ⟨?_, List.forall_mem_cons.2 ⟨hv.wellFormed, ih.2⟩⟩
      rw [fillsFields, hv.conforms, ih.1]
      rfl

theorem hasType_of_fillsFields {fields : List (String × Ty)} {values : List Value}
    (h : fillsFields fields values = true) (hw : ∀ v ∈ values, v.isWellFormed = true) :
    List.Forall₂ (fun f v => v.HasType f.2) fields values := by
  induction fields generalizing values with
  | nil =>
      cases values with
      | nil => exact .nil
      | cons _ _ => cases h
  | cons f fields ih =>
      cases values with
      | nil => cases h
      | cons v values =>
          rw [fillsFields, Bool.and_eq_true] at h
          exact .cons ⟨h.1, hw v List.mem_cons_self⟩
            (ih h.2 fun v hv => hw v (List.mem_cons_of_mem _ hv))

/-- A value of a record type is `null` or a record with a value of its type in every field. -/
theorem HasType.fields {v : Value} {fields : List (String × Ty)} (h : v.HasType (.record fields)) :
    v = null ∨ ∃ values, v = record fields values ∧
      List.Forall₂ (fun f v => v.HasType f.2) fields values := by
  obtain ⟨hc, hw⟩ := h
  cases v with
  | null => exact Or.inl rfl
  | record fields' values =>
      rw [conformsTo, decide_eq_true_iff] at hc
      subst hc
      rw [isWellFormed, Bool.and_eq_true, areWellFormed_iff] at hw
      exact Or.inr ⟨values, rfl, hasType_of_fillsFields hw.1 hw.2⟩
  | _ => cases hc

/-! ### `null` and nullable types -/

theorem null_hasType_asNullable (t : Ty) : null.HasType t.asNullable := by
  rw [null_hasType]
  cases t <;> rfl

theorem HasType.asNullable {v : Value} {t : Ty} (h : v.HasType t) : v.HasType t.asNullable := by
  unfold Ty.asNullable
  split
  · exact hasType_nullable.2 (Or.inr h)
  · exact h

theorem HasType.underlying {v : Value} {t : Ty} (h : v.HasType t) (hv : v ≠ null) :
    v.HasType t.underlying := by
  cases t with
  | nullable t => exact (hasType_nullable.1 h).resolve_left hv
  | _ => exact h

/-- A value of a type that has no `null` is not `null`. -/
theorem HasType.ne_null {v : Value} {t : Ty} (h : v.HasType t) (ht : t.acceptsNull = false) :
    v ≠ null := by
  rintro rfl
  rw [null_hasType, ht] at h
  cases h

theorem default_hasType (t : Ty) : t.default.HasType t := by
  cases t with
  | numeric k =>
      refine hasType_numeric.2 ⟨.zero k, rfl, ?_⟩
      cases k <;> rfl
  | _ => exact ⟨rfl, rfl⟩

end Value

end Elementwise
