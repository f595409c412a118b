import Elementwise.Eval.Arguments
import Elementwise.Proofs.Soundness.Value

/-!
Outcomes that a well-typed expression may have.  Such an expression ends in a value of its type or in
a fault that an element can cause; the faults that tell of a broken typing are excluded.  `Yields`
says this of every step of evaluation, and passes through the sequencing of steps.
-/

namespace Elementwise

/-- Whether a fault can come from an element, and not only from an expression or an input of the
wrong type. -/
def Fault.isOrdinary : Fault → Bool
  | internal _ | inputType _ _ => false
  | _ => true

namespace Eval

open Number (Word)

variable {α β : Type} {P : α → Prop} {Q : β → Prop}

/-- The result has the property, or is an ordinary fault. -/
inductive Yields (P : α → Prop) : Except Fault α → Prop where
  | ok {a : α} (h : P a) : Yields P (.ok a)
  | error {f : Fault} (h : f.isOrdinary = true) : Yields P (.error f)

namespace Yields

theorem bind {o : Except Fault α} {f : α → Except Fault β} (ho : Yields P o)
    (hf : ∀ a, P a → Yields Q (f a)) : Yields Q (o >>= f) := by
  cases ho with
  | ok h => exact hf _ h
  | error h => exact .error h

theorem map {o : Except Fault α} {f : α → β} (ho : Yields P o) (hf : ∀ a, P a → Q (f a)) :
    Yields Q (o.map f) := by
  cases ho with
  | ok h => exact .ok (hf _ h)
  | error h => exact .error h

theorem mono {P' : α → Prop} {o : Except Fault α} (ho : Yields P o) (h : ∀ a, P a → P' a) :
    Yields P' o := by
  cases ho with
  | ok h' => exact .ok (h _ h')
  | error h' => exact .error h'

theorem ite {c : Prop} [Decidable c] {o o' : Except Fault α} (ho : Yields P o)
    (ho' : Yields P o') : Yields P (if c then o else o') := by
  split
  · exact ho
  · exact ho'

end Yields

/-- An outcome that is a value of the type or an ordinary fault. -/
abbrev HasType (o : Outcome) (t : Ty) : Prop :=
  Yields (Value.HasType · t) o

/-! ### Arguments

Arguments are given as a list of values of the parameter types, of which each reading picks one. -/

variable {args : List Value} {i : Nat} {v : Value}

theorem argument_eq (h : args[i]? = some v) : argument args i = .ok v := by
  rw [argument, h]

theorem stringArgument_yields (h : args[i]? = some v) (hv : v.HasType .string) :
    Yields (fun _ => True) (stringArgument args i) := by
  rw [stringArgument, argument_eq h]
  obtain rfl | ⟨s, rfl⟩ := Value.hasType_string.1 hv
  · exact .error rfl
  · exact .ok trivial

theorem int32Argument_yields (h : args[i]? = some v) (hv : v.HasType .int32) :
    Yields (fun _ => True) (int32Argument args i) := by
  rw [int32Argument, argument_eq h]
  obtain ⟨w, rfl⟩ := Value.hasType_word.1 hv
  exact .ok trivial

theorem int64Argument_yields (h : args[i]? = some v) (hv : v.HasType .int64) :
    Yields (fun _ => True) (int64Argument args i) := by
  rw [int64Argument, argument_eq h]
  obtain ⟨w, rfl⟩ := Value.hasType_word.1 hv
  exact .ok trivial

theorem doubleArgument_yields (h : args[i]? = some v) (hv : v.HasType .double) :
    Yields (fun _ => True) (doubleArgument args i) := by
  rw [doubleArgument, argument_eq h]
  obtain ⟨x, rfl⟩ := Value.hasType_double.1 hv
  exact .ok trivial

theorem spanArgument_yields (h : args[i]? = some v) (hv : v.HasType .timeSpan) :
    Yields (fun _ => True) (spanArgument args i) := by
  rw [spanArgument, argument_eq h]
  obtain ⟨s, rfl⟩ := Value.hasType_timeSpan.1 hv
  exact .ok trivial

theorem clockArgument_yields (h : args[i]? = some v)
    (hv : v.HasType .dateTime ∨ v.HasType .dateTimeOffset) :
    Yields (fun _ => True) (clockArgument args i) := by
  rw [clockArgument, argument_eq h]
  rcases hv with hv | hv
  · obtain ⟨t, rfl⟩ := Value.hasType_dateTime.1 hv
    exact .ok trivial
  · obtain ⟨t, rfl⟩ := Value.hasType_dateTimeOffset.1 hv
    exact .ok trivial

end Eval

end Elementwise
