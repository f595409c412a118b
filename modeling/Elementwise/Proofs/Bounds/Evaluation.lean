import Elementwise.Proofs.Bounds.Value
import Elementwise.Proofs.Calls
import Elementwise.Proofs.Pervasive.Evaluation
import Elementwise.Proofs.Pervasive.Function

/-!
Operators and library functions keep to closed bounds: whatever they make of values whose dates and
spans are inside, its dates and spans are inside, too.  So does evaluation: where the parameters are
inside, so is the value of every expression, unless it takes a date to universal time and the bounds
do not hold universal time.
-/

namespace Elementwise

open Term (callsAll)
open Time (Span DateTime OffsetDateTime)

theorem Time.Span.neg_neg (s : Span) : s.neg.neg = s :=
  congrArg Span.mk (Int.neg_neg s.nanoseconds)

theorem Time.Span.inRange?_eq_some {s t : Span} (h : s.inRange? = some t) :
    t = s ∧ s.ticks?.isSome = true := by
  obtain ⟨w, hw, rfl⟩ := Option.map_eq_some_iff.1 h
  exact ⟨rfl, by rw [hw]; rfl⟩

namespace Eval

variable {B : TimeBounds} {v left right : Value} {args : List Value}

/-! ### Operators -/

theorem shiftDate_within (hB : B.Closed) {t : DateTime} {s : Span} (ht : B.date t)
    (hs : B.span s ∨ B.span s.neg) : Ensures B.date (shiftDate t s) := by
  cases h : shiftDate t s with
  | ok t' => exact .ok (hB.shift ht hs h)
  | error => exact .error

theorem shiftOffsetDate_within (hB : B.Closed) {t : OffsetDateTime} {s : Span}
    (ht : B.offsetDate t) (hs : B.span s ∨ B.span s.neg) :
    Ensures B.offsetDate (shiftOffsetDate t s) := by
  cases h : shiftOffsetDate t s with
  | ok t' => exact .ok (hB.shiftOffset ht hs h)
  | error => exact .error

theorem temporalArithmetic?_within (hB : B.Closed) (op : Operation) (hl : left.Within B)
    (hr : right.Within B) {o : Outcome} (h : temporalArithmetic? op left right = some o) :
    Ensures (Value.Within B) o := by
  -- subtraction negates the span first, and the least span has no negation that is inside
  have hsigned (s : Span) (hs : B.span s) : B.span (if op = .subtract then s.neg else s) ∨
      B.span (if op = .subtract then s.neg else s).neg := by
    split
    · rw [Span.neg_neg]
      exact Or.inr hs
    · exact Or.inl hs
  unfold temporalArithmetic? at h
  dsimp only at h
  split at h
  · cases h
    exact (shiftDate_within hB hl (hsigned _ hr)).map fun _ ht => ht
  · cases h
    exact (shiftOffsetDate_within hB hl (hsigned _ hr)).map fun _ ht => ht
  · cases h
    exact .ok (hB.since hl hr)
  · cases h
    exact .ok (hB.sinceUtc hl hr)
  · split at h
    · rename_i hrange
      cases h
      obtain ⟨rfl, hticks⟩ := Span.inRange?_eq_some hrange
      exact .ok (hB.add hl (hsigned _ hr) hticks)
    · cases h
      exact .error
  · cases h

theorem negate_within (hB : B.Closed) {s : Span} (hs : B.span s) :
    Ensures (Value.Within B) (unary .negate (.timeSpan s)) := by
  unfold unary
  dsimp only
  split
  · rename_i h
    obtain ⟨rfl, hrange⟩ := Span.inRange?_eq_some h
    exact .ok (hB.neg hs hrange)
  · exact .error

theorem within_operable (hB : B.Closed) : Operable (Value.Within B) where
  toPervasive := within_pervasive B
  cast v k := (cast_hasType v k).within_numeric
  negate hs := negate_within hB hs
  temporal hl hr h := temporalArithmetic?_within hB _ hl hr h

/-! ### Functions of dates and spans -/

theorem clockArgument_within (hB : B.Closed) (ha : AreWithin B args) (i : Nat) :
    Ensures B.date (clockArgument args i) := by
  refine (argument_ensures ha i).bind fun v hv => ?_
  split
  · exact .ok hv
  · exact .ok (hB.clock hv)
  · exact .error

theorem offsetDate_within (ha : AreWithin B args) :
    Ensures B.offsetDate (offsetDate args) := by
  refine (argument_ensures ha 0).bind fun v hv => ?_
  split
  · exact .ok hv
  · exact .error

theorem spanOf_within (hB : B.Closed) (amount : Float) (unit : TimeUnit) :
    Ensures B.span (spanOf amount unit) := by
  unfold spanOf
  dsimp only
  split
  · exact .error
  · split
    · exact .ok (hB.ofTicks _)
    · exact .error

theorem addToDate_within (hB : B.Closed) {s : Span} (hv : v.Within B) (hs : B.span s) :
    Ensures (Value.Within B) (addToDate v s) := by
  unfold addToDate
  split
  · exact (shiftDate_within hB hv (Or.inl hs)).map fun _ ht => ht
  · exact (shiftOffsetDate_within hB hv (Or.inl hs)).map fun _ ht => ht
  · exact .error

/-! ### The library -/

/-- What a producer gives, if it does not take a date to universal time, or if the bounds hold
universal time. -/
theorem invokeNonNull_within (hB : B.Closed) {b : Builtin} (hb : b.isProducer = true)
    (given : Option Regex) (hutc : b = .utcDateTime → B.HoldsUtc) (ha : AreWithin B args) :
    Ensures (Value.Within B) (invokeNonNull b args given) := by
  cases b with
  | date => exact (clockArgument_within hB ha 0).bind fun t ht => .ok (hB.midnight ht)
  | timeOfDay => exact (clockArgument_within hB ha 0).bind fun t ht => .ok (hB.timeOfDay ht)
  | addTime unit =>
      exact (Ensures.trivial (doubleArgument args 1)).bind fun amount _ =>
        (spanOf_within hB amount unit).bind fun s hs => (argument_ensures ha 0).bind fun v hv =>
          addToDate_within hB hv hs
  | addTicks =>
      exact (argument_ensures ha 0).bind fun v hv =>
        (Ensures.trivial (int64Argument args 1)).bind fun ticks _ =>
          addToDate_within hB hv (hB.ofTicks ticks)
  | offset => exact (offsetDate_within ha).bind fun t ht => .ok (hB.offset ht)
  | localDateTime => exact (offsetDate_within ha).bind fun t ht => .ok (hB.clock ht)
  | utcDateTime => exact (offsetDate_within ha).bind fun t ht => .ok (hutc rfl t ht)
  | spanFrom unit =>
      exact (Ensures.trivial (doubleArgument args 0)).bind fun amount _ =>
        (spanOf_within hB amount unit).bind fun s hs => .ok hs
  | spanFromTicks =>
      exact (Ensures.trivial (int64Argument args 0)).bind fun ticks _ => .ok (hB.ofTicks ticks)
  | parseNumber k =>
      exact (Ensures.trivial (stringArgument args 0)).bind fun cs _ =>
        (parse_hasType _ k).within_numeric
  | convert target =>
      cases target with
      | numeric k =>
          exact (Ensures.trivial (argument args 0)).bind fun v _ =>
            (convert_hasType v k).within_numeric
      | _ => cases hb
  | _ => cases hb

end Eval

/-! ### Reading universal time -/

namespace Term

/-- Some call in the term takes a date to universal time. -/
def ReadsUtc (t : Term) : Prop :=
  ∃ c ∈ t.calls, c.builtin = .utcDateTime

instance (t : Term) : Decidable t.ReadsUtc :=
  inferInstanceAs (Decidable (∃ c ∈ t.calls, c.builtin = .utcDateTime))

variable {t t' : Term} {ts : List Term}

theorem ReadsUtc.of_calls_subset (ht : t.ReadsUtc) (h : t.calls ⊆ t'.calls) : t'.ReadsUtc := by
  obtain ⟨c, hc, hb⟩ := ht
  exact ⟨c, h hc, hb⟩

theorem calls_subset_callsAll (h : t ∈ ts) : t.calls ⊆ callsAll ts := by
  induction h with
  | head => exact List.subset_append_left ..
  | tail _ _ ih => exact List.subset_append_of_subset_right _ ih

/-- The body of a query stands deeper in it, with the same calls. -/
theorem ReadsUtc.of_body {q : Query} {source body : Term} {args : List Term} {conditional : Bool}
    {ty : Ty} (h : body.ReadsUtc) : (query q source (some body) args conditional ty).ReadsUtc := by
  obtain ⟨c, hc, hb⟩ := h
  refine ⟨c.deeper, ?_, hb⟩
  rw [calls]
  exact List.mem_append_right _ (List.mem_append_left _ (List.mem_map_of_mem hc))

end Term

namespace Eval

variable {B : TimeBounds}

theorem calls_subset_of_operand {t part : Term} (hp : part ∈ t.operands) : part.calls ⊆ t.calls := by
  cases t with
  | constant | parameter => cases hp
  | coerce | convert | unary | field =>
      obtain rfl := List.mem_singleton.1 hp
      exact List.Subset.refl _
  | binary | coalesce | index =>
      rcases List.mem_cons.1 hp with rfl | hp
      · exact List.subset_append_left ..
      · obtain rfl := List.mem_singleton.1 hp
        exact List.subset_append_right ..
  | choice =>
      rcases List.mem_cons.1 hp with rfl | hp
      · exact List.subset_append_left ..
      rcases List.mem_cons.1 hp with rfl | hp
      · exact List.subset_append_of_subset_right _ (List.subset_append_left ..)
      · obtain rfl := List.mem_singleton.1 hp
        exact List.subset_append_of_subset_right _ (List.subset_append_right ..)
  | call => exact List.subset_cons_of_subset _ (Term.calls_subset_callsAll hp)
  | array | record => exact Term.calls_subset_callsAll hp
  | query q source body =>
      rcases List.mem_cons.1 hp with rfl | hp
      · cases body <;> exact List.subset_append_left ..
      · have hargs := Term.calls_subset_callsAll hp
        cases body with
        | none => exact List.subset_append_of_subset_right _ hargs
        | some b =>
            exact List.subset_append_of_subset_right _ (List.subset_append_of_subset_right _ hargs)

theorem Meets.readsUtc {root part : Term} {start env : List Value} (h : Meets root start part env)
    (hutc : part.ReadsUtc) : root.ReadsUtc := by
  induction h with
  | root => exact hutc
  | operand _ hp ih => exact ih (hutc.of_calls_subset (calls_subset_of_operand hp))
  | body _ _ _ ih => exact ih hutc.of_body

theorem default_within (hB : B.Closed) (t : Ty) : t.default.Within B := by
  cases t with
  | dateTime => exact hB.epoch
  | dateTimeOffset => exact hB.offsetEpoch
  | timeSpan => exact hB.ofTicks (.zero .int64)
  | _ => trivial

/-- The library has no constants outside of the bounds. -/
def HoldsLibrary (B : TimeBounds) : Prop :=
  ∀ s ∈ Library.standard, ∀ name ty v, .constant name ty v ∈ s.members → v.Within B

/-- All that can lead out of closed bounds is universal time. -/
theorem within_preserved (hB : B.Closed) (hlib : HoldsLibrary B) :
    Preserved (Value.Within B) fun part _ => part.ReadsUtc → B.HoldsUtc where
  toOperable := within_operable hB
  default t := default_within hB t
  library hs h := hlib _ hs _ _ _ h
  literal _ := trivial
  item _ _ _ _ := trivial
  producer {b args _ _ _ _} hb hutc _ hvs :=
    invoke_of_invokeNonNull <| invokeNonNull_within hB hb none
      (fun h => hutc ⟨⟨0, b, args⟩, List.mem_cons_self .., h⟩) hvs

end Eval

end Elementwise
