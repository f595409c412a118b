import Elementwise.Eval.Arithmetic
import Elementwise.Proofs.Pervasive.Value

/-!
Bounds on the dates and spans that values hold.  Bounds are closed if nothing that the language does
with dates and spans leads out of them; reading universal time is told apart, since it checks
nothing.
-/

namespace Elementwise

open Eval
open Time (Span DateTime OffsetDateTime)

/-- Bounds on the dates, the dates with an offset and the spans in a value. -/
structure TimeBounds where
  date : DateTime → Prop
  offsetDate : OffsetDateTime → Prop
  span : Span → Prop

namespace TimeBounds

/-- The bounds that keep to both. -/
def inter (B C : TimeBounds) : TimeBounds where
  date t := B.date t ∧ C.date t
  offsetDate t := B.offsetDate t ∧ C.offsetDate t
  span s := B.span s ∧ C.span s

/-- What keeps to the first bounds keeps to the second. -/
structure Le (B C : TimeBounds) : Prop where
  date (t : DateTime) (h : B.date t) : C.date t
  offsetDate (t : OffsetDateTime) (h : B.offsetDate t) : C.offsetDate t
  span (s : Span) (h : B.span s) : C.span s

theorem inter_le_left (B C : TimeBounds) : (B.inter C).Le B :=
  ⟨fun _ h => h.1, fun _ h => h.1, fun _ h => h.1⟩

end TimeBounds

namespace Value

mutual

/-- Every date and span in the value, at any depth, keeps to the bounds. -/
def Within (B : TimeBounds) : Value → Prop
  | dateTime t => B.date t
  | dateTimeOffset t => B.offsetDate t
  | timeSpan s => B.span s
  | array items => AllWithin B items
  | record _ values => AllWithin B values
  | null | boolean _ | number _ | string _ | guid _ | dayOfWeek _ => True

def AllWithin (B : TimeBounds) : List Value → Prop
  | [] => True
  | v :: vs => v.Within B ∧ AllWithin B vs

end

variable {B C D : TimeBounds} {v : Value}

theorem allWithin_iff {vs : List Value} : AllWithin B vs ↔ ∀ v ∈ vs, v.Within B := by
  induction vs with
  | nil => exact ⟨fun _ => nofun, fun _ => trivial⟩
  | cons v vs ih => rw [AllWithin, ih, List.forall_mem_cons]

theorem array_within {items : List Value} : (array items).Within B ↔ ∀ v ∈ items, v.Within B :=
  allWithin_iff

theorem record_within {fields : List (String × Ty)} {values : List Value} :
    (record fields values).Within B ↔ ∀ v ∈ values, v.Within B :=
  allWithin_iff

/-! ### Several bounds -/

mutual

theorem within_of_inter_le (h : (B.inter C).Le D) : (v : Value) → v.Within B → v.Within C →
    v.Within D
  | dateTime t => fun hB hC => h.date t ⟨hB, hC⟩
  | dateTimeOffset t => fun hB hC => h.offsetDate t ⟨hB, hC⟩
  | timeSpan s => fun hB hC => h.span s ⟨hB, hC⟩
  | array items => allWithin_of_inter_le h items
  | record _ values => allWithin_of_inter_le h values
  | null | boolean _ | number _ | string _ | guid _ | dayOfWeek _ => fun _ _ => trivial

theorem allWithin_of_inter_le (h : (B.inter C).Le D) : (vs : List Value) → AllWithin B vs →
    AllWithin C vs → AllWithin D vs
  | [] => fun _ _ => trivial
  | v :: vs => fun hB hC =>
    ⟨within_of_inter_le h v hB.1 hC.1, allWithin_of_inter_le h vs hB.2 hC.2⟩

end

theorem Within.mono (h : B.Le D) (hv : v.Within B) : v.Within D :=
  within_of_inter_le ⟨fun t ht => h.date t ht.1, fun t ht => h.offsetDate t ht.1,
    fun s hs => h.span s hs.1⟩ v hv hv

theorem Within.inter (hB : v.Within B) (hC : v.Within C) : v.Within (B.inter C) :=
  within_of_inter_le ⟨fun _ h => h, fun _ h => h, fun _ h => h⟩ v hB hC

end Value

namespace TimeBounds

/-- Moving dates and spans, and taking parts of them, does not lead out of the bounds.  A span that
is subtracted is added after its negation, so either may be the one that is known to be inside. -/
structure Closed (B : TimeBounds) : Prop where
  epoch : B.date .epoch
  offsetEpoch : B.offsetDate ⟨.epoch, 0⟩
  ofTicks (w : Number.Word .int64) : B.span (.ofTicks w.val)
  shift {t t' : DateTime} {s : Span} (ht : B.date t) (hs : B.span s ∨ B.span s.neg)
    (h : shiftDate t s = .ok t') : B.date t'
  shiftOffset {t t' : OffsetDateTime} {s : Span} (ht : B.offsetDate t)
    (hs : B.span s ∨ B.span s.neg) (h : shiftOffsetDate t s = .ok t') : B.offsetDate t'
  since {a b : DateTime} (ha : B.date a) (hb : B.date b) : B.span (a.since b)
  sinceUtc {a b : OffsetDateTime} (ha : B.offsetDate a) (hb : B.offsetDate b) :
    B.span (a.utc.since b.utc)
  add {s t : Span} (hs : B.span s) (ht : B.span t ∨ B.span t.neg)
    (h : (s.add t).ticks?.isSome = true) : B.span (s.add t)
  neg {s : Span} (hs : B.span s) (h : s.neg.ticks?.isSome = true) : B.span s.neg
  midnight {t : DateTime} (ht : B.date t) : B.date (.midnight t.day)
  timeOfDay {t : DateTime} (ht : B.date t) : B.span t.timeOfDay
  clock {t : OffsetDateTime} (ht : B.offsetDate t) : B.date t.clock
  offset {t : OffsetDateTime} (ht : B.offsetDate t) : B.span (.ofSeconds t.offset)

/-- Universal time, which nothing checks, is inside the bounds as well. -/
def HoldsUtc (B : TimeBounds) : Prop :=
  ∀ t, B.offsetDate t → B.date t.utc

end TimeBounds

namespace Eval

variable {B : TimeBounds}

/-- All values of a list are within the bounds. -/
abbrev AreWithin (B : TimeBounds) (vs : List Value) : Prop :=
  ∀ v ∈ vs, v.Within B

theorem within_pervasive (B : TimeBounds) : Value.Pervasive (Value.Within B) where
  plain {v} h := by
    cases v with
    | dateTime | dateTimeOffset | timeSpan | array | record => cases h
    | _ => trivial
  array_iff := Value.array_within
  record_iff := Value.record_within

theorem HasType.within_numeric {o : Outcome} {k : Number.NumericKind} (h : HasType o (.numeric k)) :
    Ensures (Value.Within B) o :=
  h.ensures.mono fun v hv => by
    obtain rfl | ⟨n, rfl⟩ : v = .null ∨ ∃ n, v = .number n := by
      cases v with
      | null => exact Or.inl rfl
      | number n => exact Or.inr ⟨n, rfl⟩
      | _ => cases hv.conforms
    all_goals trivial

end Eval

end Elementwise
