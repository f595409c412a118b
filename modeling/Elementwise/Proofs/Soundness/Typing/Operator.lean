import Elementwise.Proofs.Soundness.Typing.Conversion

/-!
Operators of typed operands are typed: prefix and binary operators and the two ways of choosing.
-/

namespace Elementwise

open Number (NumericKind)

namespace Typing

variable {Γ : List Ty}

/-! ### Prefix operators -/

theorem unaryOperand?_takes {op : UnaryOperator} {t target : Ty}
    (h : unaryOperand? op t = some target) : op.Takes target := by
  unfold unaryOperand? at h
  split at h
  · cases h
    rfl
  · cases h
    exact Or.inl rfl
  · rename_i k
    obtain ⟨j, hj, rfl⟩ := Option.map_eq_some_iff.1 h
    refine Or.inr ⟨j, ?_, rfl⟩
    cases k with
    | word k =>
        cases k with
        | uint64 => cases hj
        | _ =>
            cases hj
            decide
    | _ =>
        cases hj
        decide
  · trivial
  · cases h

theorem unary_typed {op : UnaryOperator} {operand : Term} {offset : Nat}
    (ho : operand.Typed Γ) : Ensures (Term.Typed Γ) (unary op operand offset) := by
  unfold unary
  dsimp only
  split
  · rename_i t h
    obtain ⟨target, htarget, h⟩ := Option.bind_eq_some_iff.1 h
    obtain ⟨operand, hc, h⟩ := Option.bind_eq_some_iff.1 h
    obtain rfl := Option.some.inj h
    obtain ⟨ho, hty⟩ := coerceTo?_typed ho hc
    exact .ok (.unary ho (unaryOperand?_takes htarget) hty rfl)
  · exact .error

/-! ### Binary operators -/

variable {left right : Term}

theorem coerceBoth_typed {target : Ty} {left' right' : Term} (hl : left.Typed Γ)
    (hr : right.Typed Γ) (h : coerceBoth left right target = .ok (left', right')) :
    (left'.Typed Γ ∧ left'.ty = target) ∧ right'.Typed Γ ∧ right'.ty = target := by
  unfold coerceBoth at h
  split at h
  · rename_i hl' hr'
    cases h
    exact ⟨coerceTo?_typed hl hl', coerceTo?_typed hr hr'⟩
  · cases h

theorem numberOfDay_typed (ho : left.Typed Γ) : (numberOfDay left).Typed Γ := by
  unfold numberOfDay
  split
  · rename_i h
    exact .convert ho ⟨eq_liftTo_underlying h rfl, rfl⟩
  · exact ho

/-- Numbers meet in a kind that has arithmetic. -/
theorem promote?_mem {j k : NumericKind} {target : NumericKind}
    (h : promote? j k = some target) : target ∈ arithmeticKinds := by
  revert h
  unfold promote?
  dsimp only
  repeat' split
  all_goals rintro ⟨⟩ <;> decide

theorem promoteTypes?_join {l r target : Ty} (h : (promoteTypes? l r).join = some target) :
    ∃ k ∈ arithmeticKinds, target = .numeric k := by
  unfold promoteTypes? at h
  split at h
  · obtain ⟨k, hk, rfl⟩ := Option.map_eq_some_iff.1 h
    exact ⟨k, promote?_mem hk, rfl⟩
  · cases h

theorem gives_of_computes {op : Operation} {lifted : Bool} {l r t : Ty}
    (hop : op.isArithmetic = true) (h : op.Computes l r t) :
    op.Gives lifted (liftTo l lifted) (liftTo r lifted) (liftTo t lifted) := by
  cases op with
  | add | subtract | multiply | divide | modulo => exact ⟨l, r, t, h, rfl, rfl, rfl⟩
  | _ => cases hop

theorem gives_boolean {op : BinaryOperator} {lifted : Bool} {l r : Ty}
    (hop : op.precedence? = some .equality ∨ op.precedence? = some .relational) :
    (operation op).Gives lifted l r .boolean := by
  cases op with
  | equal | notEqual | lessThan | greaterThan | lessEqual | greaterEqual => rfl
  | _ => rcases hop with h | h <;> cases h

theorem arithmetic_typed {op : BinaryOperator} {lifted : Bool} {offset : Nat} (hl : left.Typed Γ)
    (hr : right.Typed Γ) (hop : (operation op).isArithmetic = true) :
    Ensures (Term.Typed Γ) (arithmetic op left right lifted offset) := by
  unfold arithmetic
  dsimp only
  split
  · exact .error
  · rename_i target h
    obtain ⟨k, hk, rfl⟩ := promoteTypes?_join h
    split
    · rename_i hc
      obtain ⟨⟨hl, hlt⟩, hr, hrt⟩ := coerceBoth_typed (numberOfDay_typed hl) (numberOfDay_typed hr) hc
      refine .ok (.binary hl hr ?_)
      rw [hlt, hrt]
      exact gives_of_computes hop (.numeric hop hk)
    · exact .error

theorem comparison_typed {op : BinaryOperator} {target? : Option Ty} {lifted : Bool} {offset : Nat}
    (hl : left.Typed Γ) (hr : right.Typed Γ)
    (hop : op.precedence? = some .equality ∨ op.precedence? = some .relational) :
    Ensures (Term.Typed Γ) (comparison op left right target? lifted offset) := by
  unfold comparison
  split
  · exact .error
  · split
    · rename_i hc
      obtain ⟨⟨hl, -⟩, hr, -⟩ := coerceBoth_typed hl hr hc
      exact .ok (.binary hl hr (gives_boolean hop))
    · exact .error

theorem nullTest_typed {op : BinaryOperator} {offset : Nat} (hl : left.Typed Γ)
    (hr : right.Typed Γ) (hop : op.precedence? = some .equality) :
    Ensures (Term.Typed Γ) (nullTest op left right offset) := by
  unfold nullTest
  split
  · rename_i hc
    exact .ok (.binary hr (coerceTo?_typed hl hc).1 (gives_boolean (Or.inl hop)))
  · exact .error

theorem equality_typed {op : BinaryOperator} {offset : Nat} (hl : left.Typed Γ)
    (hr : right.Typed Γ) (hop : op.precedence? = some .equality) :
    Ensures (Term.Typed Γ) (equality op left right offset) := by
  unfold equality
  split
  · exact nullTest_typed hl hr hop
  · split
    · exact nullTest_typed hr hl hop
    · exact comparison_typed hl hr (Or.inl hop)

theorem relational_typed {op : BinaryOperator} {lifted : Bool} {offset : Nat} (hl : left.Typed Γ)
    (hr : right.Typed Γ) (hop : op.precedence? = some .relational) :
    Ensures (Term.Typed Γ) (relational op left right lifted offset) :=
  comparison_typed hl hr (Or.inr hop)

theorem temporal?_temporal {op : BinaryOperator} {left right l r t : Ty}
    (h : temporal? op left right = some (l, r, t)) : Temporal l r t := by
  unfold temporal? at h
  dsimp only at h
  split at h
  · split at h
    · cases h
      exact .move
    · cases h
  · split at h
    · cases h
      exact .moveOffset
    · cases h
  · split at h
    · cases h
      exact .span
    · cases h
  · split at h
    · cases h
      exact .since
    · cases h
  · split at h
    · cases h
      exact .sinceOffset
    · cases h
  · cases h

theorem additive_typed {op : BinaryOperator} {lifted : Bool} {offset : Nat} (hl : left.Typed Γ)
    (hr : right.Typed Γ) (hop : (operation op).isArithmetic = true) :
    Ensures (Term.Typed Γ) (additive op left right lifted offset) := by
  unfold additive
  split
  · rename_i l r result h
    split
    · rename_i hl' hr'
      obtain ⟨hl, hlt⟩ := coerceTo?_typed hl hl'
      obtain ⟨hr, hrt⟩ := coerceTo?_typed hr hr'
      refine .ok (.binary hl hr ?_)
      rw [hlt, hrt]
      exact gives_of_computes hop (.temporal (temporal?_temporal h))
    · exact .error
  · exact arithmetic_typed hl hr hop

theorem binary_typed {op : BinaryOperator} {offset : Nat} (hl : left.Typed Γ)
    (hr : right.Typed Γ) (hop : op ≠ .coalesce) :
    Ensures (Term.Typed Γ) (binary op left right offset) := by
  unfold binary
  cases op with
  | and | or =>
      dsimp only
      split
      · rename_i h
        rw [Bool.and_eq_true, decide_eq_true_iff, decide_eq_true_iff] at h
        exact .ok (.binary hl hr ⟨h.1, h.2, rfl⟩)
      · exact .error
  | equal | notEqual => exact equality_typed hl hr rfl
  | lessThan | greaterThan | lessEqual | greaterEqual => exact relational_typed hl hr rfl
  | add =>
      dsimp only
      split
      · exact .ok (.binary hl hr rfl)
      · exact additive_typed hl hr rfl
  | subtract | multiply | divide | modulo => exact additive_typed hl hr rfl
  | coalesce => exact absurd rfl hop

theorem eq_underlying_or_nullable (t : Ty) : t = t.underlying ∨ t = .nullable t.underlying := by
  cases t with
  | nullable t => exact Or.inr rfl
  | _ => exact Or.inl rfl

theorem coalesce_typed {offset : Nat} (hl : left.Typed Γ) (hr : right.Typed Γ) :
    Ensures (Term.Typed Γ) (coalesce left right offset) := by
  unfold coalesce
  split
  · rename_i h
    exact .ok (.coalesce hl hr (Or.inl (of_decide_eq_true h)) rfl)
  split
  · exact .error
  split
  · rename_i hc
    obtain ⟨hr, hrt⟩ := coerceTo?_typed hr hc
    exact .ok (.coalesce hl hr (Or.inr (eq_underlying_or_nullable _)) hrt)
  · rename_i hc
    obtain ⟨hr, hrt⟩ := coerceTo?_typed hr hc
    exact .ok (.coalesce hl hr (Or.inr (Or.inl rfl)) hrt)
  · split
    · rename_i hc
      obtain ⟨hl, hlt⟩ := coerceTo?_typed hl hc
      split
      · exact .ok (.coalesce hl hr (Or.inr (Or.inl hlt)) rfl)
      · exact .error
    · exact .error

/-! ### Conditionals -/

theorem unify_typed {offset : Nat} (hl : left.Typed Γ) (hr : right.Typed Γ) :
    Ensures (fun branches => branches.1.Typed Γ ∧ branches.2.Typed Γ ∧ branches.2.ty = branches.1.ty)
      (unify left right offset) := by
  unfold unify
  dsimp only
  split
  · rename_i hc
    obtain ⟨hr, hrt⟩ := coerceTo?_typed hr hc
    exact .ok ⟨hl, hr, hrt⟩
  · rename_i hc
    obtain ⟨hl, hlt⟩ := coerceTo?_typed hl hc
    exact .ok ⟨hl, hr, hlt.symm⟩
  · split
    · exact .error
    · split
      · rename_i branches hc
        obtain ⟨⟨hl, hlt⟩, hr, hrt⟩ := coerceBoth_typed hl hr hc
        exact .ok ⟨hl, hr, hrt.trans hlt.symm⟩
      · exact .error

end Typing

end Elementwise
