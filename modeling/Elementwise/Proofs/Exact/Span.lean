import Elementwise.Proofs.Exact.Arithmetic

/-!
Arithmetic on spans is that of their tick counts.  The span of every 64-bit count has that count;
sums, differences and the negation are exact where the count stays in the range, and overflow where
it does not; and spans compare as their counts do.
-/

namespace Elementwise

open Number (Word WordKind)

/-! ### Tick counts -/

namespace Time.Span

/-- The span of a tick count, if that is a 64-bit integer. -/
def ofTicks? (n : Int) : Option Span :=
  (Word.ofInt? .int64 n).map fun w => ofTicks w.val

theorem ticks?_ofTicks (n : Int) : (ofTicks n).ticks? = Word.ofInt? .int64 n :=
  congrArg (Word.ofInt? .int64) (wholeTicks_ofTicks n)

/-- A span is made up of whole seconds and of the nanoseconds of the ticks that are left. -/
theorem ofTicks_eq_add (n : Int) :
    ofTicks n = (ofSeconds (n.tdiv ticksPerSecond)).add ⟨n.tmod ticksPerSecond * 100⟩ := by
  have hsplit : 10000000 * n.tdiv 10000000 + n.tmod 10000000 = n := Int.mul_tdiv_add_tmod n 10000000
  rw [ofTicks, ofSeconds, add, show ticksPerSecond = 10000000 from rfl, Span.mk.injEq]
  dsimp only
  omega

/-- Counting the ticks of the whole seconds and those of the rest counts all of them. -/
theorem wholeTicks_eq_add (s : Span) :
    s.wholeTicks = s.nanoseconds.tdiv 1000000000 * ticksPerSecond +
      (s.nanoseconds.tmod 1000000000).tdiv 100 := by
  have hsign : (100 : Int).sign = 1 := rfl
  have hsign' : (1000000000 : Int).sign = 1 := rfl
  rw [wholeTicks, show ticksPerSecond = 10000000 from rfl]
  generalize s.nanoseconds = n
  simp only [Int.tdiv_eq_ediv, Int.tmod_eq_emod, hsign, hsign']
  split <;> split <;> omega

theorem ofTicks_add (m n : Int) : (ofTicks m).add (ofTicks n) = ofTicks (m + n) :=
  congrArg mk (Int.add_mul m n 100).symm

theorem neg_ofTicks (n : Int) : (ofTicks n).neg = ofTicks (-n) :=
  congrArg mk (Int.neg_mul n 100).symm

theorem inRange?_ofTicks (n : Int) : (ofTicks n).inRange? = ofTicks? n := by
  rw [inRange?, ticks?_ofTicks, ofTicks?]
  cases hn : Word.ofInt? .int64 n with
  | none => rfl
  | some w => exact congrArg (fun n => some (ofTicks n)) (Word.ofInt?_eq_some.1 hn).symm

end Time.Span

namespace Eval

open Time (Span)
open Typing (operation)

/-! ### Sums, differences and negations -/

/-- Arithmetic on spans adds, and gives no span beyond the range. -/
theorem arithmetic_spans (op : Operation) (s t : Span) :
    ExactOrOverflows ((s.add (if op = .subtract then t.neg else t)).inRange?.map .timeSpan)
      (arithmetic op (.timeSpan s) (.timeSpan t)) := by
  show ExactOrOverflows _ ((temporalArithmetic? op (.timeSpan s) (.timeSpan t)).getD _)
  unfold temporalArithmetic?
  dsimp only
  cases (s.add (if op = .subtract then t.neg else t)).inRange? with
  | none => exact ⟨_, _, rfl⟩
  | some s => rfl

section Counts

variable (m n : Int)

theorem add_ofTicks : ExactOrOverflows ((Span.ofTicks? (m + n)).map .timeSpan)
    (arithmetic .add (.timeSpan (.ofTicks m)) (.timeSpan (.ofTicks n))) := by
  rw [← Span.inRange?_ofTicks, ← Span.ofTicks_add]
  exact arithmetic_spans .add _ _

/-- The second span is negated first, and that may take it out of the range; what counts is the
difference. -/
theorem subtract_ofTicks : ExactOrOverflows ((Span.ofTicks? (m - n)).map .timeSpan)
    (arithmetic .subtract (.timeSpan (.ofTicks m)) (.timeSpan (.ofTicks n))) := by
  rw [Int.sub_eq_add_neg, ← Span.inRange?_ofTicks, ← Span.ofTicks_add, ← Span.neg_ofTicks]
  exact arithmetic_spans .subtract _ _

theorem negate_ofTicks : ExactOrOverflows ((Span.ofTicks? (-n)).map .timeSpan)
    (unary .negate (.timeSpan (.ofTicks n))) := by
  rw [← Span.inRange?_ofTicks, ← Span.neg_ofTicks]
  unfold unary
  dsimp only
  cases (Span.ofTicks n).neg.inRange? with
  | none => exact ⟨_, _, rfl⟩
  | some s => rfl

/-! ### Comparison -/

theorem compare?_ofTicks :
    (Value.timeSpan (.ofTicks m)).compare? (.timeSpan (.ofTicks n)) = some (compare m n) := by
  have hmono : StrictMono fun n : Int => n * 100 := fun _ _ h => by
    dsimp only
    omega
  exact congrArg some (Number.compare_map hmono m n)

theorem same_ofTicks :
    (Value.timeSpan (.ofTicks m)).same (.timeSpan (.ofTicks n)) = decide (m = n) := by
  rw [Value.same, Bool.eq_iff_iff, beq_iff_eq, decide_eq_true_iff, Span.ofTicks, Span.ofTicks,
    Span.mk.injEq]
  omega

end Counts

/-! ### Main result -/

/-- Spans are 64-bit tick counts: each count has its span, arithmetic on spans is exact or else it
overflows, and they compare as their counts. -/
theorem span_arithmetic_exact (t u : Word .int64) :
    (Span.ofTicks t.val).ticks? = some t ∧
      ExactOrOverflows ((Span.ofTicks? (t.val + u.val)).map .timeSpan)
        (arithmetic .add (.timeSpan (.ofTicks t.val)) (.timeSpan (.ofTicks u.val))) ∧
      ExactOrOverflows ((Span.ofTicks? (t.val - u.val)).map .timeSpan)
        (arithmetic .subtract (.timeSpan (.ofTicks t.val)) (.timeSpan (.ofTicks u.val))) ∧
      ExactOrOverflows ((Span.ofTicks? (-t.val)).map .timeSpan)
        (unary .negate (.timeSpan (.ofTicks t.val))) ∧
      (Value.timeSpan (.ofTicks t.val)).compare? (.timeSpan (.ofTicks u.val)) =
        some (compare t.val u.val) ∧
      (Value.timeSpan (.ofTicks t.val)).sortOrder (.timeSpan (.ofTicks u.val)) =
        compare t.val u.val ∧
      ∀ op : BinaryOperator, ∀ c ∈ op.truth? t.val u.val,
        binaryOn (operation op) false (.timeSpan (.ofTicks t.val)) (.timeSpan (.ofTicks u.val)) =
          .ok (.boolean c) := by
  have horder := compare?_ofTicks t.val u.val
  refine ⟨?_, add_ofTicks _ _, subtract_ofTicks _ _, negate_ofTicks _, horder, ?_, ?_⟩
  · rw [Span.ticks?_ofTicks, Word.ofInt?_eq_some]
  · rw [Value.sortOrder, horder, Option.getD_some]
    exact fun _ _ h => nomatch h
  · intro op c hc
    exact binaryOn_of_truth? horder (same_ofTicks _ _) hc

/-- The least span has no negation, but one that is less by it. -/
theorem span_arithmetic_exact_least :
    let least : Word .int64 := ⟨-9223372036854775808, by decide, by decide⟩
    let before : Word .int64 := ⟨-1, by decide, by decide⟩
    Overflows (unary .negate (.timeSpan (.ofTicks least.val))) ∧
      arithmetic .subtract (.timeSpan (.ofTicks before.val)) (.timeSpan (.ofTicks least.val)) =
        .ok (.timeSpan (.ofTicks 9223372036854775807)) ∧
      BinaryOperator.lessThan.truth? least.val before.val = some true ∧
      binaryOn .lessThan false (.timeSpan (.ofTicks least.val))
        (.timeSpan (.ofTicks before.val)) = .ok (.boolean true) := by
  intro least before
  have hleast := span_arithmetic_exact least before
  have hbefore := span_arithmetic_exact before least
  exact ⟨hleast.2.2.2.1, hbefore.2.2.1, by decide, hleast.2.2.2.2.2.2 .lessThan true (by decide)⟩

end Eval

end Elementwise
