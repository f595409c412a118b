import Elementwise.Eval.Fault
import Elementwise.Proofs.Exact.Number
import Elementwise.Proofs.Soundness.Operator
import Mathlib.Data.Int.ModEq

/-!
What operators on exact numbers come to.  A comparison has the truth value of the comparison of the
numbers.  Sums, differences and products are right modulo the size of the kind they are computed in;
quotients and remainders are those of truncated division, with one quotient of each signed kind that
does not fit.  Where a result has to be in a range, an operation that is exact gives its mathematical
result if that is in range, and an overflow if it is not.
-/

namespace Elementwise

/-! ### Results in a range -/

namespace Number

/-- Whether the integer is a word of the kind. -/
def WordKind.Holds (k : WordKind) (n : Int) : Prop :=
  k.min ≤ n ∧ n ≤ k.max

instance (k : WordKind) (n : Int) : Decidable (k.Holds n) :=
  inferInstanceAs (Decidable (k.min ≤ n ∧ n ≤ k.max))

namespace Word

variable {k : WordKind} {n : Int}

theorem holds (w : Word k) : k.Holds w.val :=
  ⟨w.min_le, w.le_max⟩

theorem ofInt?_of_holds (h : k.Holds n) : ofInt? k n = some ⟨n, h.1, h.2⟩ :=
  dif_pos h

theorem ofInt?_of_not_holds (h : ¬k.Holds n) : ofInt? k n = none :=
  dif_neg h

end Word

end Number

namespace Eval

/-- The outcome is an overflow, of whatever it is. -/
def Overflows (o : Outcome) : Prop :=
  ∃ value target, o = .error (.overflow value target)

/-- The outcome is the result, or an overflow if there is none. -/
def ExactOrOverflows (result : Option Value) (o : Outcome) : Prop :=
  match result with
  | some v => o = .ok v
  | none => Overflows o

end Eval

/-! ### Quotients and remainders of words -/

namespace Number

variable {k : WordKind}

theorem WordKind.min_of_signed (h : k.signed = true) : k.min = -k.max - 1 := by
  revert h
  cases k <;> decide

theorem WordKind.min_of_unsigned (h : k.signed = false) : k.min = 0 := by
  revert h
  cases k <;> decide

namespace Word

theorem wrap_modEq (k : WordKind) (n : Int) : (wrap k n).val ≡ n [ZMOD k.size] := by
  have h : n - k.min ≡ (n - k.min) % k.size [ZMOD k.size] := (Int.mod_modEq _ _).symm
  calc
    (wrap k n).val = k.min + (n - k.min) % k.size := rfl
    _ ≡ k.min + (n - k.min) [ZMOD k.size] := (Int.ModEq.refl _).add h.symm
    _ = n := by omega

theorem val_wrap {n : Int} (hmin : k.min ≤ n) (hmax : n ≤ k.max) : (wrap k n).val = n :=
  congrArg val (wrap_val ⟨n, hmin, hmax⟩)

variable {a b : Word k}

/-- The remainder lies between zero and the dividend. -/
theorem tmod_mem : k.min ≤ a.val.tmod b.val ∧ a.val.tmod b.val ≤ k.max := by
  have hmin := a.min_le
  have hmax := a.le_max
  have hzero := k.min_le_zero
  have hzero' := k.zero_le_max
  have hle : (a.val.tmod b.val).natAbs ≤ a.val.natAbs := by
    rw [Int.natAbs_tmod]
    exact Nat.mod_le _ _
  rcases Int.le_total 0 a.val with hpos | hneg
  · have := Int.tmod_nonneg b.val hpos
    omega
  · have := Int.tmod_nonneg b.val (Int.neg_nonneg_of_nonpos hneg)
    rw [Int.neg_tmod] at this
    omega

/-- The quotient fits, except for that of the least number by minus one. -/
theorem tdiv_mem (hb : b.val ≠ 0) (h : ¬(k.signed = true ∧ a.val = k.min ∧ b.val = -1)) :
    k.min ≤ a.val.tdiv b.val ∧ a.val.tdiv b.val ≤ k.max := by
  have hmin := a.min_le
  have hmax := a.le_max
  cases hk : k.signed with
  | false =>
      have hb' := b.min_le
      rw [WordKind.min_of_unsigned hk] at hmin hb' ⊢
      exact ⟨Int.tdiv_nonneg hmin hb', (Int.tdiv_le_self _ hmin).trans hmax⟩
  | true =>
      have hsigned := WordKind.min_of_signed hk
      have hzero := k.zero_le_max
      rcases eq_or_ne b.val (-1) with hb' | hb'
      · have hne : a.val ≠ k.min := fun ha => h ⟨hk, ha, hb'⟩
        rw [hb', Int.tdiv_neg, Int.tdiv_one]
        omega
      rcases eq_or_ne b.val 1 with hb'' | hb''
      · rw [hb'', Int.tdiv_one]
        exact ⟨hmin, hmax⟩
      -- any other divisor halves the magnitude at least
      have hle : (a.val.tdiv b.val).natAbs ≤ a.val.natAbs / 2 := by
        rw [Int.natAbs_tdiv]
        exact Nat.div_le_div_left (by omega) (by decide)
      omega

end Word

end Number

namespace BinaryOperator

/-- The truth value of a comparison; other operators have none. -/
def truth? {α : Type} [LinearOrder α] (op : BinaryOperator) (x y : α) : Option Bool :=
  match op with
  | equal => some (x = y)
  | notEqual => some (x ≠ y)
  | lessThan => some (x < y)
  | greaterThan => some (y < x)
  | lessEqual => some (x ≤ y)
  | greaterEqual => some (y ≤ x)
  | _ => none

/-- Integers compare as the rational numbers that they are. -/
theorem truth?_cast (op : BinaryOperator) (x y : Int) :
    op.truth? (x : ℚ) (y : ℚ) = op.truth? x y := by
  cases op with
  | equal => exact congrArg some (decide_eq_decide.2 Int.cast_inj)
  | notEqual => exact congrArg some (decide_eq_decide.2 (not_congr Int.cast_inj))
  | lessThan | greaterThan => exact congrArg some (decide_eq_decide.2 Int.cast_lt)
  | lessEqual | greaterEqual => exact congrArg some (decide_eq_decide.2 Int.cast_le)
  | _ => rfl

end BinaryOperator

namespace Eval

open Number (Word WordKind)
open Typing (operation)

/-! ### Specification -/

/-- The outcome is a word congruent to the integer. -/
def Wraps (k : WordKind) (n : Int) (o : Outcome) : Prop :=
  ∃ w : Word k, o = .ok (.number (.word k w)) ∧ w.val ≡ n [ZMOD k.size]

/-- The outcome is the quotient or the remainder `n` of `x` by `y`, where there is one that fits. -/
def Divides (k : WordKind) (x y n : Int) (o : Outcome) : Prop :=
  if y = 0 then o = .error .divisionByZero
  else if k.signed = true ∧ x = k.min ∧ y = -1 then o = .error (.overflow (showInt x) k.name)
  else ∃ w : Word k, o = .ok (.number (.word k w)) ∧ w.val = n

/-- What arithmetic on two integers comes to in a kind of words. -/
def Calculates (op : BinaryOperator) (k : WordKind) (x y : Int) (o : Outcome) : Prop :=
  match op with
  | .add => Wraps k (x + y) o
  | .subtract => Wraps k (x - y) o
  | .multiply => Wraps k (x * y) o
  | .divide => Divides k x y (x.tdiv y) o
  | .modulo => Divides k x y (x.tmod y) o
  | _ => False

/-! ### Arithmetic -/

section Words

variable {k : WordKind} {a b : Word k}

/-- Division as a word does it, for a quotient or a remainder that fits where the quotient does. -/
theorem divides {n : Int}
    (hn : b.val ≠ 0 → ¬(k.signed = true ∧ a.val = k.min ∧ b.val = -1) → k.min ≤ n ∧ n ≤ k.max) :
    Divides k a.val b.val n
      (if b.val = 0 then .error .divisionByZero
      else
        match Word.ofInt? k (a.val.tdiv b.val) with
        | some _ => .ok (.number (.word k (.wrap k n)))
        | none => .error (.overflow (showInt a.val) k.name)) := by
  unfold Divides
  by_cases hb : b.val = 0
  · rw [if_pos hb, if_pos hb]
  rw [if_neg hb, if_neg hb]
  by_cases hleast : k.signed = true ∧ a.val = k.min ∧ b.val = -1
  · have hsigned := WordKind.min_of_signed hleast.1
    have hbeyond : k.max < a.val.tdiv b.val := by
      rw [hleast.2.1, hleast.2.2, Int.tdiv_neg, Int.tdiv_one]
      omega
    rw [if_pos hleast, Word.ofInt?_of_not_holds fun h => absurd h.2 (not_le.2 hbeyond)]
  · obtain ⟨hmin, hmax⟩ := Word.tdiv_mem hb hleast
    obtain ⟨hmin', hmax'⟩ := hn hb hleast
    rw [if_neg hleast, Word.ofInt?_of_holds ⟨hmin, hmax⟩]
    exact ⟨_, rfl, Word.val_wrap hmin' hmax'⟩

theorem wordArithmetic_calculates {op : BinaryOperator}
    (hop : (operation op).isArithmetic = true) :
    Calculates op k a.val b.val (wordArithmetic (operation op) k a b) := by
  cases op with
  | add | subtract | multiply => exact ⟨_, rfl, Word.wrap_modEq k _⟩
  | divide => exact divides Word.tdiv_mem
  | modulo => exact divides fun _ _ => Word.tmod_mem
  | _ => cases hop

end Words

/-! ### Comparison -/

section Comparison

section Order

variable {α : Type} [LinearOrder α] {op : BinaryOperator} {v w : Value} {x y : α} {c : Bool}

theorem admits_compare (h : op.truth? x y = some c) (hop : op.precedence? = some .relational) :
    admits (operation op) (compare x y) = c := by
  cases op with
  | lessThan =>
      cases h
      rw [Bool.eq_iff_iff, decide_eq_true_iff]
      exact Ordering.isLT_iff_eq_lt.trans compare_lt_iff_lt
  | greaterThan =>
      cases h
      rw [Bool.eq_iff_iff, decide_eq_true_iff]
      exact Ordering.isGT_iff_eq_gt.trans compare_gt_iff_gt
  | lessEqual =>
      cases h
      rw [Bool.eq_iff_iff, decide_eq_true_iff]
      exact Ordering.isLE_iff_ne_gt.trans compare_le_iff_le
  | greaterEqual =>
      cases h
      rw [Bool.eq_iff_iff, decide_eq_true_iff]
      exact Ordering.isGE_iff_ne_lt.trans compare_ge_iff_ge
  | _ => cases hop

/-- Values that are ordered as two others are compare as those do. -/
theorem binaryOn_of_truth? (horder : v.compare? w = some (compare x y))
    (hsame : v.same w = decide (x = y)) (h : op.truth? x y = some c) :
    binaryOn (operation op) false v w = .ok (.boolean c) := by
  cases op with
  | equal =>
      cases h
      rw [operation, binaryOn, hsame]
  | notEqual =>
      cases h
      rw [operation, binaryOn, hsame, decide_not]
  | lessThan | greaterThan | lessEqual | greaterEqual =>
      rw [← admits_compare h rfl, operation, binaryOn, horder]
      rfl
  | _ => cases h

end Order

/-- Two values of one type of exact numbers compare as their numbers do. -/
theorem binaryOn_truth {op : BinaryOperator} {v w : Value} {t : Ty} {p q : ℚ} {c : Bool}
    (ht : t.isExact = true) (hv : v.HasType t) (hw : w.HasType t)
    (hp : v.toRat? = some p) (hq : w.toRat? = some q) (h : op.truth? p q = some c) :
    binaryOn (operation op) false v w = .ok (.boolean c) :=
  binaryOn_of_truth? (Value.compare?_eq ht hv hw hp hq) (Value.same_eq ht hv hw hp hq) h

end Comparison

end Eval

end Elementwise
