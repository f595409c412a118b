import Elementwise.Proofs.Outcome
import Elementwise.Proofs.Soundness.Outcome

/-!
Properties of values that are properties of the dates, spans and characters in them, at any depth.
Such a property is pervasive: plain values have it, and arrays and records have it exactly if all
their items have it.
-/

namespace Elementwise

/-- The types of plain values. -/
def Ty.isPlain : Ty → Bool
  | null | boolean | string | guid | dayOfWeek => true
  | numeric k => k != .char
  | _ => false

namespace Value

/-- Whether the value has no parts and is no date, no span and no character. -/
def isPlain : Value → Bool
  | null | boolean _ | string _ | guid _ | dayOfWeek _ => true
  | number (.char _) => false
  | number _ => true
  | dateTime _ | dateTimeOffset _ | timeSpan _ | array _ | record _ _ => false

/-- Whether a value has the property depends on the dates, spans and characters in it alone. -/
structure Pervasive (P : Value → Prop) : Prop where
  plain {v : Value} (h : v.isPlain = true) : P v
  array_iff {items : List Value} : P (array items) ↔ ∀ v ∈ items, P v
  record_iff {fields : List (String × Ty)} {values : List Value} :
    P (record fields values) ↔ ∀ v ∈ values, P v

theorem isPlain_of_conformsTo {v : Value} {t : Ty} (ht : t.isPlain = true)
    (hv : v.conformsTo t = true) : v.isPlain = true := by
  cases t with
  | null | boolean | string | guid | dayOfWeek => cases v <;> first | rfl | cases hv
  | numeric k =>
      cases v with
      | null => rfl
      | number n =>
          cases n with
          | char c =>
              cases eq_of_beq hv
              cases ht
          | _ => rfl
      | _ => cases hv
  | _ => cases ht

end Value

namespace Eval

variable {P : Value → Prop} {α : Type}

theorem Yields.ensures {Q : α → Prop} {o : Except Fault α} (h : Yields Q o) : Ensures Q o := by
  cases h with
  | ok h => exact .ok h
  | error => exact .error

theorem HasType.plain {o : Outcome} {t : Ty} (h : HasType o t) (hP : Value.Pervasive P)
    (ht : t.isPlain = true) : Ensures P o :=
  h.ensures.mono fun _ hv => hP.plain (Value.isPlain_of_conformsTo ht hv.conforms)

/-- A value that is made of whatever is computed. -/
theorem ensures_of_forall {f : α → Value} (o : Except Fault α) (hf : ∀ a, P (f a)) :
    Ensures P (o >>= fun a => .ok (f a)) :=
  (Ensures.trivial o).bind fun a _ => .ok (hf a)

/-- A plain value that is made of whatever is computed. -/
theorem ensures_plain (hP : Value.Pervasive P) {f : α → Value} (o : Except Fault α)
    (hf : ∀ a, (f a).isPlain = true) : Ensures P (o >>= fun a => .ok (f a)) :=
  ensures_of_forall o fun a => hP.plain (hf a)

end Eval

end Elementwise
