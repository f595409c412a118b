import Elementwise.Proofs.Library.Catalog
import Elementwise.Proofs.Soundness.Binding

/-!
Properties of terms that are passed on from the parts of a term to the whole.  Typing builds terms
with their constructors and takes constants from nowhere but literals, the defaults of types and the
members of the library, so every typed expression has such a property if these constants have it.
The types that objects are taken for are those that symbols of the library convert to.
-/

namespace Elementwise

open Typing (bindLiteral)

/-- What the query gives where it finds no item, if it has a default for that. -/
def Query.default? : Query → Option Value
  | firstOrDefault v | lastOrDefault v => some v
  | _ => none

/-- The default of the query, if it has one, is the default of a type. -/
def Query.HasTypeDefault (q : Query) : Prop :=
  ∀ v, q.default? = some v → ∃ t : Ty, v = t.default

/-- A symbol of the library converts to the type, or to the type that it is nullable of. -/
def Ty.IsTarget (t : Ty) : Prop :=
  ∃ s ∈ Library.standard, ∃ target, s.target? = some target ∧ (t = target ∨ t = target.asNullable)

/-- An object is taken for a value of no type but one that a conversion call may ask for. -/
def Conversion.UnboxesTargets (c : Conversion) : Prop :=
  ∀ t, c = .unbox t → t.IsTarget

/-- The property holds of the constants that expressions have, and the constructors of terms pass it
on. -/
structure Hereditary (P : Term → Prop) : Prop where
  null : P (.constant .null .null)
  literal (l : Literal) : P (bindLiteral l)
  default (t : Ty) : P (.constant t.default t)
  library {s : LibrarySymbol} {name : String} {ty : Ty} {v : Value} (hs : s ∈ Library.standard)
    (h : .constant name ty v ∈ s.members) : P (.constant v ty)
  parameter (depth : Nat) (ty : Ty) : P (.parameter depth ty)
  coerce {t : Term} (c : Coercion) (ty : Ty) (h : P t) : P (.coerce c t ty)
  convert {t : Term} {c : Conversion} (hc : c.UnboxesTargets) (ty : Ty) (h : P t) :
    P (.convert c t ty)
  unary {t : Term} (op : UnaryOperator) (lifted : Bool) (ty : Ty) (h : P t) :
    P (.unary op t lifted ty)
  binary {l r : Term} (op : Operation) (lifted : Bool) (ty : Ty) (hl : P l) (hr : P r) :
    P (.binary op l r lifted ty)
  coalesce {l r : Term} (ty : Ty) (hl : P l) (hr : P r) : P (.coalesce l r ty)
  choice {c t f : Term} (ty : Ty) (hc : P c) (ht : P t) (hf : P f) : P (.choice c t f ty)
  call {args : List Term} (b : Builtin) (conditional : Bool) (ty : Ty) (h : ∀ a ∈ args, P a) :
    P (.call b args conditional ty)
  field {t : Term} (i : Nat) (conditional : Bool) (ty : Ty) (h : P t) :
    P (.field t i conditional ty)
  index {t i : Term} (conditional : Bool) (ty : Ty) (h : P t) (hi : P i) :
    P (.index t i conditional ty)
  query {q : Query} {source : Term} {body : Option Term} {args : List Term} (conditional : Bool)
    (ty : Ty) (hq : q.HasTypeDefault) (hs : P source) (hb : ∀ b, body = some b → P b)
    (ha : ∀ a ∈ args, P a) : P (.query q source body args conditional ty)
  array {ts : List Term} (ty : Ty) (h : ∀ t ∈ ts, P t) : P (.array ts ty)
  record {ts : List Term} (fields : List (String × Ty)) (h : ∀ t ∈ ts, P t) :
    P (.record fields ts)

namespace Hereditary

open Typing

variable {P : Term → Prop} {t t' left right receiver : Term} {name : Ident} {scopes : List Scope}

/-! ### Conversions -/

theorem foldl_coerce (hP : Hereditary P) (steps : List (Coercion × Ty)) (h : P t) :
    P (steps.foldl (fun t (c, ty) => Term.coerce c t ty) t) := by
  induction steps generalizing t with
  | nil => exact h
  | cons step steps ih => exact ih (hP.coerce step.1 step.2 h)

theorem of_coerceTo? (hP : Hereditary P) {target : Ty} (ht : P t)
    (h : t.coerceTo? target = some t') : P t' := by
  obtain ⟨steps, -, rfl⟩ := Option.map_eq_some_iff.1 h
  exact hP.foldl_coerce steps ht

theorem of_convertScalar? (hP : Hereditary P) {source target : Ty} {lifted : Bool} (ht : P t)
    (h : t.convertScalar? source target lifted = some t') : P t' := by
  unfold Term.convertScalar? at h
  dsimp only at h
  split at h
  · obtain rfl := Option.some.inj h
    split
    · exact hP.convert (by rintro _ ⟨⟩) _ ht
    · exact hP.convert (by rintro _ ⟨⟩) _ (hP.convert (by rintro _ ⟨⟩) _ ht)
  · obtain rfl := Option.some.inj h
    exact hP.convert (by rintro _ ⟨⟩) _ ht
  · obtain rfl := Option.some.inj h
    exact hP.convert (by rintro _ ⟨⟩) _ ht
  · cases h

theorem convertTo_ensures (hP : Hereditary P) {target : Ty} (htarget : target.IsTarget)
    (offset : Nat) (ht : P t) : Ensures P (t.convertTo target offset) := by
  unfold Term.convertTo
  split
  · rename_i h
    exact .ok (hP.of_coerceTo? ht h)
  split
  · refine .ok (hP.convert ?_ _ ht)
    rintro t ⟨⟩
    exact htarget
  have hoperand : P (if t.ty.isNullable && !target.isNullable then
      t.convert .unwrap t.ty.underlying else t) := by
    split
    · exact hP.convert (by rintro _ ⟨⟩) _ ht
    · exact ht
  dsimp only
  split
  · exact .ok hoperand
  split
  · rename_i converted h
    have hconverted := hP.of_convertScalar? hoperand h
    refine .ok ?_
    split
    · exact hP.coerce _ _ hconverted
    · exact hconverted
  · exact .error

/-! ### Operators -/

theorem unary_ensures (hP : Hereditary P) (op : UnaryOperator) (offset : Nat) (ht : P t) :
    Ensures P (Typing.unary op t offset) := by
  unfold Typing.unary
  dsimp only
  split
  · rename_i h
    obtain ⟨target, -, h⟩ := Option.bind_eq_some_iff.1 h
    obtain ⟨operand, hc, h⟩ := Option.bind_eq_some_iff.1 h
    obtain rfl := Option.some.inj h
    exact .ok (hP.unary _ _ _ (hP.of_coerceTo? ht hc))
  · exact .error

theorem of_numberOfDay (hP : Hereditary P) (ht : P t) : P (numberOfDay t) := by
  unfold numberOfDay
  split
  · exact hP.convert (by rintro _ ⟨⟩) _ ht
  · exact ht

theorem of_coerceBoth (hP : Hereditary P) (hl : P left) (hr : P right) {target : Ty} {l r : Term}
    (h : coerceBoth left right target = .ok (l, r)) : P l ∧ P r := by
  unfold coerceBoth at h
  split at h
  · rename_i hl' hr'
    cases h
    exact ⟨hP.of_coerceTo? hl hl', hP.of_coerceTo? hr hr'⟩
  · cases h

theorem arithmetic_ensures (hP : Hereditary P) (op : BinaryOperator) (lifted : Bool) (offset : Nat)
    (hl : P left) (hr : P right) : Ensures P (arithmetic op left right lifted offset) := by
  unfold arithmetic
  dsimp only
  split
  · exact .error
  · split
    · rename_i h
      obtain ⟨hl', hr'⟩ := hP.of_coerceBoth (hP.of_numberOfDay hl) (hP.of_numberOfDay hr) h
      exact .ok (hP.binary _ _ _ hl' hr')
    · exact .error

theorem comparison_ensures (hP : Hereditary P) (op : BinaryOperator) (target? : Option Ty)
    (lifted : Bool) (offset : Nat) (hl : P left) (hr : P right) :
    Ensures P (comparison op left right target? lifted offset) := by
  unfold comparison
  split
  · exact .error
  · split
    · rename_i h
      obtain ⟨hl', hr'⟩ := hP.of_coerceBoth hl hr h
      exact .ok (hP.binary _ _ _ hl' hr')
    · exact .error

theorem nullTest_ensures (hP : Hereditary P) (op : BinaryOperator) (offset : Nat) (hl : P left)
    (hr : P right) : Ensures P (nullTest op left right offset) := by
  unfold nullTest
  split
  · rename_i h
    exact .ok (hP.binary _ _ _ hr (hP.of_coerceTo? hl h))
  · exact .error

theorem equality_ensures (hP : Hereditary P) (op : BinaryOperator) (offset : Nat) (hl : P left)
    (hr : P right) : Ensures P (equality op left right offset) := by
  unfold equality
  split
  · exact hP.nullTest_ensures op offset hl hr
  · split
    · exact hP.nullTest_ensures op offset hr hl
    · exact hP.comparison_ensures op _ _ offset hl hr

theorem additive_ensures (hP : Hereditary P) (op : BinaryOperator) (lifted : Bool) (offset : Nat)
    (hl : P left) (hr : P right) : Ensures P (additive op left right lifted offset) := by
  unfold additive
  split
  · split
    · rename_i hl' hr'
      exact .ok (hP.binary _ _ _ (hP.of_coerceTo? hl hl') (hP.of_coerceTo? hr hr'))
    · exact .error
  · exact hP.arithmetic_ensures op lifted offset hl hr

theorem binary_ensures (hP : Hereditary P) (op : BinaryOperator) (offset : Nat) (hl : P left)
    (hr : P right) : Ensures P (Typing.binary op left right offset) := by
  unfold Typing.binary
  cases op with
  | and | or =>
      dsimp only
      split
      · exact .ok (hP.binary _ _ _ hl hr)
      · exact .error
  | equal | notEqual => exact hP.equality_ensures _ offset hl hr
  | lessThan | greaterThan | lessEqual | greaterEqual => exact hP.comparison_ensures _ _ _ offset hl hr
  | add =>
      dsimp only
      split
      · exact .ok (hP.binary _ _ _ hl hr)
      · exact hP.additive_ensures _ _ offset hl hr
  | subtract | multiply | divide | modulo | coalesce => exact hP.additive_ensures _ _ offset hl hr

theorem coalesce_ensures (hP : Hereditary P) (offset : Nat) (hl : P left) (hr : P right) :
    Ensures P (Typing.coalesce left right offset) := by
  unfold Typing.coalesce
  split
  · exact .ok (hP.coalesce _ hl hr)
  split
  · exact .error
  split
  · rename_i h
    exact .ok (hP.coalesce _ hl (hP.of_coerceTo? hr h))
  · rename_i h
    exact .ok (hP.coalesce _ hl (hP.of_coerceTo? hr h))
  · split
    · rename_i h
      split
      · exact .ok (hP.coalesce _ (hP.of_coerceTo? hl h) hr)
      · exact .error
    · exact .error

theorem unify_ensures (hP : Hereditary P) (offset : Nat) (hl : P left) (hr : P right) :
    Ensures (fun branches => P branches.1 ∧ P branches.2) (unify left right offset) := by
  unfold unify
  dsimp only
  split
  · rename_i h
    exact .ok ⟨hl, hP.of_coerceTo? hr h⟩
  · rename_i h
    exact .ok ⟨hP.of_coerceTo? hl h, hr⟩
  · split
    · exact .error
    · split
      · rename_i h
        exact .ok (hP.of_coerceBoth hl hr h)
      · exact .error

end Hereditary

end Elementwise
