import Elementwise.Proofs.Exact.Arithmetic
import Elementwise.Proofs.Time.Years

/-!
Readings that are whole numbers of ticks.  Outside leap seconds a reading is determined by its
nanoseconds, and so there is one for each tick count of the calendar.  A span that is added counts
in full, except that one which leads past the leap second that a reading is in loses a second.
-/

namespace Elementwise.Time

open Eval (ExactOrOverflows Overflows shiftDate)

namespace DateTime

variable {t a b : DateTime} {s : Span} {n k : Int}

/-! ### Nanoseconds -/

theorem nanoseconds_atNanosecond (day n : Int) :
    (atNanosecond day n).nanoseconds = day * 86400000000000 + n := by
  rw [nanoseconds, atNanosecond]
  dsimp only
  omega

theorem inLeapSecond_atNanosecond (day n : Int) : (atNanosecond day n).inLeapSecond = false := by
  rw [inLeapSecond, atNanosecond, decide_eq_false_iff_not, nanosPerSecond]
  dsimp only
  omega

theorem inLeapSecond_eq_false : t.inLeapSecond = false ↔ t.nano.val < 1000000000 := by
  rw [inLeapSecond, decide_eq_false_iff_not, nanosPerSecond, Nat.not_le]

/-- Outside leap seconds, readings at one instant are one. -/
theorem eq_of_nanoseconds (ha : a.inLeapSecond = false) (hb : b.inLeapSecond = false)
    (h : a.nanoseconds = b.nanoseconds) : a = b := by
  rw [inLeapSecond_eq_false] at ha hb
  rw [nanoseconds, nanoseconds] at h
  have hday : a.day = b.day := by omega
  have hsecond : a.second = b.second := Fin.ext (by omega)
  have hnano : a.nano = b.nano := Fin.ext (by omega)
  cases a
  cases b
  cases hday
  cases hsecond
  cases hnano
  rfl

/-! ### Adding a span -/

/-- A span leads past the leap second that a reading is in. -/
def Outruns (s : Span) (t : DateTime) : Prop :=
  t.inLeapSecond = true ∧ 2000000000 ≤ t.nano.val + s.nanoseconds

instance : Decidable (Outruns s t) :=
  inferInstanceAs (Decidable (_ ∧ _))

theorem not_outruns (h : t.inLeapSecond = false) (s : Span) : ¬Outruns s t :=
  fun h' => Bool.false_ne_true (h.symm.trans h'.1)

/-- It does if it has more whole seconds than none, or else if what is left of it does. -/
theorem outruns_iff (h : t.inLeapSecond = true) : Outruns s t ↔
    0 < s.nanoseconds.tdiv 1000000000 ∨ 0 < s.nanoseconds.tmod 1000000000 ∧
      2000000000 ≤ t.nano.val + s.nanoseconds.tmod 1000000000 := by
  have hnano : 1000000000 ≤ t.nano.val := of_decide_eq_true h
  have hsign : (1000000000 : Int).sign = 1 := rfl
  rw [Outruns, h, eq_self, true_and, Int.tdiv_eq_ediv, Int.tmod_eq_emod, hsign]
  split <;> omega

theorem nanoseconds_add (t : DateTime) (s : Span) : (t.add s).nanoseconds =
    t.nanoseconds + s.nanoseconds - if Outruns s t then 1000000000 else 0 := by
  unfold add
  dsimp only
  by_cases hleap : t.inLeapSecond = true
  · rw [if_pos hleap]
    by_cases hout : Outruns s t
    · rw [if_pos ((outruns_iff hleap).1 hout), if_pos hout, nanoseconds_atNanosecond, nanoseconds]
      omega
    · have hout' := mt (outruns_iff hleap).2 hout
      rw [if_neg hout', if_neg hout]
      split
      · rw [nanoseconds_atNanosecond, nanoseconds]
        omega
      · -- less than a second, which ends before the leap second does and after the one before began
        have hnano : 1000000000 ≤ t.nano.val := of_decide_eq_true hleap
        have hsplit := Int.mul_tdiv_add_tmod s.nanoseconds 1000000000
        have hlt := Int.lt_tmod_of_pos s.nanoseconds (show (0 : Int) < 1000000000 by decide)
        rw [nanoseconds, nanoseconds]
        dsimp only
        omega
  · rw [if_neg hleap, if_neg fun h => hleap h.1, nanoseconds_atNanosecond, nanoseconds]
    omega

/-- A reading enters no leap second. -/
theorem inLeapSecond_add (h : t.inLeapSecond = false) (s : Span) :
    (t.add s).inLeapSecond = false := by
  unfold add
  dsimp only
  rw [h, if_neg Bool.false_ne_true, inLeapSecond_atNanosecond]

/-! ### Tick counts -/

theorem nanoseconds_emod (t : DateTime) : t.nanoseconds % 100 = (t.nano.val % 100 : Nat) := by
  rw [nanoseconds]
  omega

/-- The tick count is exact, up to being brought into the 64-bit range. -/
theorem ticks_eq (h : t.nanoseconds = n * 100) : t.ticks =
    max (-9223372036854775808) (min 9223372036854775807 n) := by
  rw [ticks, since_epoch, h]
  exact congrArg (fun n => max _ (min _ n)) (Span.wholeTicks_ofTicks n)

theorem inCalendar_iff (h : t.nanoseconds = n * 100) :
    t.inCalendar = true ↔ 0 ≤ n ∧ n ≤ maxTicks := by
  rw [inCalendar, Bool.and_eq_true, decide_eq_true_iff, decide_eq_true_iff, ticks_eq h,
    show maxTicks = 3155378975999999999 from rfl]
  omega

theorem ticks_eq_of_mem (h : t.nanoseconds = n * 100) (hmin : 0 ≤ n) (hmax : n ≤ maxTicks) :
    t.ticks = n := by
  rw [show maxTicks = 3155378975999999999 from rfl] at hmax
  rw [ticks_eq h]
  omega

theorem nanoseconds_eq (ht : t.nano.val % 100 = 0) (hin : t.inCalendar = true) :
    t.nanoseconds = t.ticks * 100 := by
  have hmod : t.nanoseconds % 100 = 0 := by rw [nanoseconds_emod, ht, Int.natCast_zero]
  have hdiv : t.nanoseconds = t.nanoseconds / 100 * 100 := by omega
  obtain ⟨hmin, hmax⟩ := (inCalendar_iff hdiv).1 hin
  rw [ticks_eq_of_mem hdiv hmin hmax, ← hdiv]

/-- The reading of a tick count that is in no leap second. -/
def ofTicks (n : Int) : DateTime :=
  atNanosecond 0 (n * 100)

theorem nanoseconds_ofTicks (n : Int) : (ofTicks n).nanoseconds = n * 100 := by
  rw [ofTicks, nanoseconds_atNanosecond, Int.zero_mul, Int.zero_add]

/-- The reading of a tick count of the calendar. -/
def ofTicks? (n : Int) : Option DateTime :=
  if 0 ≤ n ∧ n ≤ maxTicks then some (ofTicks n) else none

theorem ofTicks?_eq_some_iff : ofTicks? n = some t ↔ t.inLeapSecond = false ∧
    t.nano.val % 100 = 0 ∧ t.inCalendar = true ∧ t.ticks = n := by
  constructor
  · intro h
    unfold ofTicks? at h
    split at h
    · rename_i hn
      cases h
      have hnano := nanoseconds_ofTicks n
      exact ⟨inLeapSecond_atNanosecond _ _, atNanosecond_nano_mod _ (Int.mul_emod_left n 100),
        (inCalendar_iff hnano).2 hn, ticks_eq_of_mem hnano hn.1 hn.2⟩
    · cases h
  · rintro ⟨hleap, hmod, hin, rfl⟩
    have hnano := nanoseconds_eq hmod hin
    rw [ofTicks?, if_pos ((inCalendar_iff hnano).1 hin)]
    exact congrArg some (eq_of_nanoseconds (inLeapSecond_atNanosecond _ _) hleap
      ((nanoseconds_ofTicks _).trans hnano.symm))

/-- The tick count of a reading that is moved by a number of ticks. -/
def ticksAfter (t : DateTime) (n : Int) : Int :=
  t.ticks + n - if Outruns (.ofTicks n) t then ticksPerSecond else 0

theorem ticksAfter_eq (h : t.inLeapSecond = false) (n : Int) : t.ticksAfter n = t.ticks + n := by
  rw [ticksAfter, if_neg (not_outruns h _), Int.sub_zero]

theorem nanoseconds_add_ofTicks (ht : t.nano.val % 100 = 0) (hin : t.inCalendar = true) (n : Int) :
    (t.add (.ofTicks n)).nanoseconds = t.ticksAfter n * 100 := by
  rw [nanoseconds_add, nanoseconds_eq ht hin, ticksAfter, Span.ofTicks,
    show ticksPerSecond = 10000000 from rfl]
  dsimp only
  split <;> omega

/-! ### Moving a reading -/

theorem day_of_inCalendar (h : t.inCalendar = true) : firstDay ≤ t.day ∧ t.day ≤ lastDay := by
  obtain ⟨hmin, hmax⟩ := bounds_of_inCalendar h
  have hfirst : firstDay ≤ -1 := by decide
  have hlast : 3652058 ≤ lastDay := by decide
  rw [nanoseconds] at hmin hmax
  omega

theorem add?_of_inCalendar (h : (t.add s).inCalendar = true) : t.add? s = some (t.add s) := by
  obtain ⟨hfirst, hlast⟩ := day_of_inCalendar h
  exact if_pos (by rw [decide_eq_true hfirst, decide_eq_true hlast, Bool.and_self])

/-- A date is moved if it stays in the calendar, and overflows if it does not. -/
theorem shiftDate_spec (t : DateTime) (s : Span) :
    ExactOrOverflows (if (t.add s).inCalendar then some (.dateTime (t.add s)) else none)
      ((shiftDate t s).map .dateTime) := by
  unfold shiftDate
  cases hin : (t.add s).inCalendar with
  | true =>
      rw [if_pos rfl, add?_of_inCalendar hin]
      dsimp only
      rw [if_pos hin]
      rfl
  | false =>
      rw [if_neg Bool.false_ne_true]
      split
      · exact ⟨_, _, rfl⟩
      · rename_i r hr
        obtain rfl := add?_eq_some hr
        rw [hin, if_neg Bool.false_ne_true]
        exact ⟨_, _, rfl⟩

theorem shiftDate_of_add_eq {r : DateTime} (h : t.add s = r) (hin : r.inCalendar = true) :
    (shiftDate t s).map Value.dateTime = .ok (.dateTime r) := by
  have hshift := shiftDate_spec t s
  rw [h, if_pos hin] at hshift
  exact hshift

/-! ### Spans between readings -/

theorem nanoseconds_since (ha : a.inLeapSecond = false) (hb : b.inLeapSecond = false) :
    (a.since b).nanoseconds = a.nanoseconds - b.nanoseconds := by
  rw [since, ha, hb, Bool.and_false, Bool.and_false, if_neg Bool.false_ne_true,
    if_neg Bool.false_ne_true, nanoseconds, nanoseconds]
  dsimp only
  omega

theorem add_since (ha : a.inLeapSecond = false) (hb : b.inLeapSecond = false) :
    b.add (a.since b) = a := by
  refine eq_of_nanoseconds (inLeapSecond_add hb _) ha ?_
  rw [nanoseconds_add, nanoseconds_since ha hb, if_neg (not_outruns hb _)]
  omega

end DateTime

end Elementwise.Time
