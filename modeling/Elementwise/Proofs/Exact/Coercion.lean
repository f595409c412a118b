import Elementwise.Proofs.Exact.Widening
import Elementwise.Proofs.Nullable.Conversion

/-!
Implicit conversions never fail.  Where one type converts implicitly to another, every value of the
first becomes a value of the second; `null` stays `null`, and only a number that widens changes.
-/

namespace Elementwise

open Number (NumericKind)

namespace Eval

/-- A number that widens to another kind is cast to a number of that kind. -/
theorem exists_cast {n : Number} {k : NumericKind} (h : n.kind.widensTo k = true)
    (hne : n.kind ≠ k) : ∃ w, cast (.number n) k = .ok w ∧ w.HasType (.numeric k) := by
  obtain ⟨m, hm⟩ := exists_castNumber h hne
  exact ⟨.number m, cast_number_eq_ok_iff.2 ⟨m, hm, rfl⟩,
    Value.hasType_numeric.2 ⟨m, rfl, castNumber_kind hm⟩⟩

end Eval

namespace Typing

open Eval

variable {s target : Ty} {t : Term} {steps : List (Coercion × Ty)} {v w : Value}

/-- What a conversion makes of a value: a value of the target, which is `null` if the value was, and
the same value if no step changes it. -/
structure Coerced (v w : Value) (target : Ty) (steps : List (Coercion × Ty)) : Prop where
  hasType : w.HasType target
  null : v = .null → w = .null
  same : (∀ step ∈ steps, step.1.isIdentity = true) → w = v

theorem Coerced.refl (hv : v.HasType target) : Coerced v v target steps :=
  ⟨hv, id, fun _ => rfl⟩

theorem Coerced.of_number {c : Coercion} {n : Number} (hc : c.isIdentity = false)
    (hw : w.HasType target) : Coerced (.number n) w target [(c, target)] := by
  refine ⟨hw, nofun, fun hsame => ?_⟩
  have hidentity := hsame (c, target) (List.mem_singleton.2 rfl)
  rw [hc] at hidentity
  cases hidentity

theorem run_single (c : Coercion) (ty : Ty) (v : Value) : run [(c, ty)] v = coerce c v := by
  rw [run]
  cases coerce c v <;> rfl

/-- The steps of an implicit conversion make every value of the type one of the target. -/
theorem Implicit.run (h : Implicit s target steps) (hv : v.HasType s) :
    ∃ w, run steps v = .ok w ∧ Coerced v w target steps := by
  induction h with
  | same => exact ⟨v, rfl, .refl hv⟩
  | nullLiteral h =>
      obtain rfl := Value.hasType_null.1 hv
      exact ⟨.null, rfl, .refl (Value.null_hasType.2 h)⟩
  | box => exact ⟨v, rfl, .refl (Value.hasType_object.2 hv.wellFormed)⟩
  | numeric h hne =>
      obtain ⟨n, rfl, rfl⟩ := Value.hasType_numeric.1 hv
      obtain ⟨w, hcast, hw⟩ := exists_cast h hne
      exact ⟨w, (run_single _ _ _).trans hcast, .of_number rfl hw⟩
  | liftedNumeric h hne =>
      rcases Value.hasType_nullable.1 hv with rfl | hv
      · exact ⟨.null, rfl, .refl (Value.null_hasType.2 rfl)⟩
      · obtain ⟨n, rfl, rfl⟩ := Value.hasType_numeric.1 hv
        obtain ⟨w, hcast, hw⟩ := exists_cast h hne
        exact ⟨w, (run_single _ _ _).trans hcast,
          .of_number rfl (Value.hasType_nullable.2 (Or.inr hw))⟩
  | wrap hs h ih =>
      obtain ⟨w, hrun, hw⟩ := ih hv
      refine ⟨w, (run_append_wrap _ _ v).trans hrun, ?_⟩
      exact ⟨Value.hasType_nullable.2 (Or.inr hw.hasType), hw.null,
        fun hsame => hw.same fun step hstep => hsame step (List.mem_append_left _ hstep)⟩
  | upcast hs h =>
      -- only references are converted inside an array, and those stay as they are
      exact ⟨v, rfl, .refl (hv.of_isImplicit hs h)⟩

/-- Where the type of a term converts implicitly to another, the converted term has a value of that
type whenever the term has one of its own.  It is `null` for `null`, and the same unless a number
widens. -/
theorem exists_coerced {env : List Value} (h : isImplicit t.ty target = true)
    (ht : evaluate t env = .ok v) (hv : v.conformsTo t.ty = true) (hw : v.isWellFormed = true) :
    ∃ steps c w, implicitSteps? t.ty target = some steps ∧ t.coerceTo? target = some c ∧
      c.ty = target ∧ evaluate c env = .ok w ∧
      (w.conformsTo target = true ∧ w.isWellFormed = true) ∧ (v = .null → w = .null) ∧
      ((∀ step ∈ steps, step.1.isIdentity = true) → w = v) := by
  obtain ⟨steps, hsteps⟩ := Option.isSome_iff_exists.1 h
  obtain ⟨c, hc, hcoerce⟩ := exists_coerceTo? (t := t) hsteps
  obtain ⟨w, hrun, hcoerced⟩ := (implicit_of_implicitSteps? hsteps).run ⟨hv, hw⟩
  refine ⟨steps, c, w, hsteps, hc, coerceTo?_ty hc, ?_,
    ⟨hcoerced.hasType.conforms, hcoerced.hasType.wellFormed⟩, hcoerced.null, hcoerced.same⟩
  rw [hcoerce env, ht]
  exact hrun

/-- Lists of words, one of them absent, are taken for sequences of any objects as they are. -/
theorem exists_coerced_words :
    ∃ steps c w,
      implicitSteps? (.array (.array .string)) (.sequence (.sequence .object)) = some steps ∧
        (Term.constant (.array [.array [.string "even", .null], .null])
          (.array (.array .string))).coerceTo? (.sequence (.sequence .object)) = some c ∧
        c.ty = .sequence (.sequence .object) ∧ evaluate c [] = .ok w ∧
        w = .array [.array [.string "even", .null], .null] := by
  have himplicit : isImplicit (.array (.array .string)) (.sequence (.sequence .object)) = true := by
    decide
  have hwords : evaluate (.constant (.array [.array [.string "even", .null], .null])
      (.array (.array .string))) [] = .ok (.array [.array [.string "even", .null], .null]) := rfl
  obtain ⟨steps, c, w, hsteps, hc, hty, hevaluate, -, -, hsame⟩ :=
    exists_coerced (t := .constant _ (.array (.array .string))) himplicit hwords rfl rfl
  have hupcast : implicitSteps? (.array (.array .string)) (.sequence (.sequence .object)) =
      some [(.upcast, .sequence (.sequence .object))] := by decide
  cases hupcast.symm.trans hsteps
  exact ⟨_, c, w, hupcast, hc, hty, hevaluate, hsame (by decide)⟩

end Typing

end Elementwise
