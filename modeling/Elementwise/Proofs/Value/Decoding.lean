import Elementwise.Proofs.Soundness.Stage
import Elementwise.Proofs.Value.Scalars

/-!
What is read from JSON has the type that it is read as.  Every part of a document is read as a part
of the type, and a number only through a conversion to its kind; where any object is expected the
value takes its own form, with one value of any form in each field of a record.  A stage therefore
never turns away an element that was read for its input type.
-/

namespace Elementwise

namespace Value

open Number (NumericKind)

/-! ### Documents of any type -/

theorem inferNumber_isWellFormed (n : JsonNumber) : (inferNumber n).isWellFormed = true := by
  unfold inferNumber
  split
  · split <;> rfl
  · rfl
  · rfl

/-- The fields of an inferred record are of any type, so the values of its members fill them. -/
theorem fillsFields_inferMembers (members : List (String × Json)) :
    fillsFields (members.map fun (name, _) => (name, .object)) (inferMembers members) = true := by
  induction members with
  | nil => rfl
  | cons member members ih =>
      rw [List.map_cons, inferMembers, fillsFields, conformsTo, ih]
      rfl

mutual

theorem infer_isWellFormed : (j : Json) → (infer j).isWellFormed = true
  | .null | .bool _ | .string _ => rfl
  | .number n => inferNumber_isWellFormed n
  | .array items => inferItems_areWellFormed items
  | .object members => by
      rw [infer, isWellFormed, fillsFields_inferMembers, inferMembers_areWellFormed members]
      rfl

theorem inferItems_areWellFormed : (items : List Json) → areWellFormed (inferItems items) = true
  | [] => rfl
  | j :: js => by
      rw [inferItems, areWellFormed, infer_isWellFormed j, inferItems_areWellFormed js]
      rfl

theorem inferMembers_areWellFormed :
    (members : List (String × Json)) → areWellFormed (inferMembers members) = true
  | [] => rfl
  | (_, j) :: members => by
      rw [inferMembers, areWellFormed, infer_isWellFormed j, inferMembers_areWellFormed members]
      rfl

end

/-! ### Documents of a type -/

theorem decodeScalar?_hasType {t : Ty} {j : Json} {v : Value} (h : decodeScalar? t j = some v) :
    v.HasType t := by
  unfold decodeScalar? at h
  split at h
  · cases h
    exact hasType_boolean.2 ⟨_, rfl⟩
  · cases h
    exact hasType_string.2 (Or.inr ⟨_, rfl⟩)
  · split at h
    · cases h
      exact hasType_char.2 ⟨_, rfl⟩
    · cases h
  · obtain ⟨t, -, rfl⟩ := Option.map_eq_some_iff.1 h
    exact hasType_dateTime.2 ⟨t, rfl⟩
  · obtain ⟨t, -, rfl⟩ := Option.map_eq_some_iff.1 h
    exact hasType_dateTimeOffset.2 ⟨t, rfl⟩
  · obtain ⟨ticks, -, rfl⟩ := Option.map_eq_some_iff.1 h
    exact hasType_timeSpan.2 ⟨_, rfl⟩
  · obtain ⟨ticks, -, rfl⟩ := Option.map_eq_some_iff.1 h
    exact hasType_timeSpan.2 ⟨_, rfl⟩
  · obtain ⟨g, -, rfl⟩ := Option.map_eq_some_iff.1 h
    exact hasType_guid.2 ⟨g, rfl⟩
  · obtain ⟨w, -, rfl⟩ := Option.map_eq_some_iff.1 h
    exact hasType_dayOfWeek.2 ⟨w, rfl⟩
  · obtain ⟨w, -, rfl⟩ := Option.map_eq_some_iff.1 h
    exact hasType_dayOfWeek.2 ⟨w, rfl⟩
  · cases h

/-- Whatever a number is read from, a conversion to the kind comes last. -/
theorem decodeNumber_hasType {j : Json} {k : NumericKind} {v : Value}
    (h : decodeNumber j k = .ok v) : v.HasType (.numeric k) := by
  unfold decodeNumber at h
  cases hsource : numberSource j k with
  | error m =>
      rw [hsource] at h
      cases h
  | ok source =>
      rw [hsource] at h
      have hconvert := Eval.convert_hasType source k
      change (Eval.convert source k).mapError _ = .ok v at h
      cases hv : Eval.convert source k with
      | error f =>
          rw [hv] at h
          cases h
      | ok w =>
          rw [hv] at h hconvert
          cases h
          cases hconvert with
          | ok hw => exact hw

theorem mapM_decode_hasType {t : Ty} (ht : ∀ j v, decode t j = .ok v → v.HasType t)
    {items : List Json} {vs : List Value} (h : items.mapM (decode t) = .ok vs) :
    ∀ v ∈ vs, v.HasType t := by
  induction items generalizing vs with
  | nil =>
      cases h
      exact nofun
  | cons j js ih =>
      rw [List.mapM_cons] at h
      cases hv : decode t j with
      | error m =>
          rw [hv] at h
          cases h
      | ok v =>
          rw [hv] at h
          cases hvs : js.mapM (decode t) with
          | error m =>
              rw [hvs] at h
              cases h
          | ok vs' =>
              rw [hvs] at h
              cases h
              exact List.forall_mem_cons.2 ⟨ht j v hv, ih hvs⟩

/-- What is read has the type.  The items of an array are left to the induction on the type. -/
theorem decode_hasType (t : Ty) (j : Json) (v : Value) (h : decode t j = .ok v) :
    v.HasType t := by
  revert h
  fun_cases decode t j with
  | case1 =>
      rintro ⟨⟩
      exact hasType_object.2 (infer_isWellFormed j)
  | case2 =>
      rintro ⟨⟩
      exact null_hasType.2 rfl
  | case3 t =>
      intro h
      exact hasType_nullable.2 (Or.inr (decode_hasType t j v h))
  | case4 t items =>
      intro h
      obtain ⟨vs, hvs, rfl⟩ := map_eq_ok h
      exact array_hasType_array.2 (mapM_decode_hasType (decode_hasType t) hvs)
  | case5 t items =>
      intro h
      obtain ⟨vs, hvs, rfl⟩ := map_eq_ok h
      exact array_hasType_sequence.2 (mapM_decode_hasType (decode_hasType t) hvs)
  | case6 =>
      rintro ⟨⟩
      exact decodeScalar?_hasType (by assumption)
  | case8 k => exact decodeNumber_hasType
  | case9 =>
      rintro ⟨⟩
      exact null_hasType.2 (by assumption)
  | case11 =>
      rintro ⟨⟩
      exact decodeScalar?_hasType (by assumption)
  | case7 | case10 | case12 => nofun
termination_by sizeOf t

end Value

namespace Stage

variable {catalog : Catalog} {text : String} {input : Ty} {s : Stage}

/-- A stage evaluates an element of its input type; that ends in a value or an ordinary fault. -/
theorem process_of_hasType (hc : catalog.Composed) (h : build catalog text input = .ok s)
    {element : Value} (he : element.HasType input) :
    s.process element = s.run element ∧ Eval.HasType (s.process element) s.output := by
  obtain ⟨rfl, ht⟩ := build_typed hc h
  have hprocess : s.process element = s.run element := by rw [process, if_pos he.conforms]
  exact ⟨hprocess, hprocess ▸ Eval.evaluate_hasType ht (.cons he .nil)⟩

end Stage

namespace Value

/-- What is read as a value of a type conforms to it, at every depth, and a stage for inputs of the
type does not refuse it. -/
theorem decode_conformsTo {t : Ty} {j : Json} {v : Value} (h : decode t j = .ok v) :
    (v.conformsTo t = true ∧ v.isWellFormed = true) ∧
      ∀ (catalog : Catalog) (text : String) (s : Stage), catalog.Composed →
        Stage.build catalog text t = .ok s →
        s.process v = s.run v ∧
          ∀ expected found, s.process v ≠ .error (.inputType expected found) := by
  have hv := decode_hasType t j v h
  refine ⟨⟨hv.conforms, hv.wellFormed⟩, fun catalog text s hc hs => ?_⟩
  obtain ⟨hprocess, houtcome⟩ := Stage.process_of_hasType hc hs hv
  refine ⟨hprocess, fun expected found hfault => ?_⟩
  rw [hfault] at houtcome
  cases houtcome with
  | error hordinary => cases hordinary

/-- A person and an absent one, read as objects, are counted. -/
theorem decode_conformsTo_people :
    ∃ v,
      decode (.array .object)
        (.array [.object [("Age", .number (.integer 36)), ("Name", .string "Ada")], .null]) =
          .ok v ∧
      (v.conformsTo (.array .object) = true ∧ v.isWellFormed = true) ∧
      ∃ s, Stage.build .standard "it.Count(p => p != null)" (.array .object) = .ok s ∧
        s.process v = s.run v ∧
          ∀ expected found, s.process v ≠ .error (.inputType expected found) := by
  have hdecode : decode (.array .object)
      (.array [.object [("Age", .number (.integer 36)), ("Name", .string "Ada")], .null]) =
      .ok (array [record [("Age", .object), ("Name", .object)]
        [int32 (.wrap .int32 36), string "Ada"], null]) := rfl
  obtain ⟨htype, hstage⟩ := decode_conformsTo hdecode
  have hok : (Stage.build .standard "it.Count(p => p != null)"
      (.array .object)).toOption.isSome = true := by
    decide +kernel
  cases hs : Stage.build .standard "it.Count(p => p != null)" (.array .object) with
  | ok s => exact ⟨_, hdecode, htype, s, rfl, hstage .standard _ s .standard hs⟩
  | error e =>
      rw [hs] at hok
      cases hok

end Value

end Elementwise
