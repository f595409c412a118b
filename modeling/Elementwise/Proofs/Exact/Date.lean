import Elementwise.Eval.Library
import Elementwise.Proofs.Exact.Span
import Elementwise.Proofs.Time.Ticks
import Elementwise.Proofs.Value.Decoding

/-!
Arithmetic on dates of whole ticks.  Adding ticks, and adding or subtracting the span of ticks, is
exact in the calendar and overflows at its ends.  Only from within a leap second a second is lost,
where that leads past it.  A date of the calendar is the one that its ticks lead to from the first,
but JSON has other dates as well: in other years, with fractions of a tick, and in leap seconds.
-/

namespace Elementwise.Eval

open Number (Word WordKind)
open Time (DateTime Span)

/-! ### Specification -/

/-- The outcome is a reading of whole ticks with the count, or an overflow if the calendar does not
have the count. -/
def TicksOrOverflows (n : Int) (o : Outcome) : Prop :=
  if 0 ≤ n ∧ n ≤ DateTime.maxTicks then
    ∃ t : DateTime, o = .ok (.dateTime t) ∧ t.nano.val % 100 = 0 ∧ t.ticks = n
  else Overflows o

/-- What moving a reading by a number of ticks comes to.  Outside leap seconds, one reading has the
ticks of the sum. -/
def Moves (a : DateTime) (n : Int) (o : Outcome) : Prop :=
  if a.inLeapSecond then TicksOrOverflows (a.ticksAfter n) o
  else ExactOrOverflows ((DateTime.ofTicks? (a.ticks + n)).map .dateTime) o

theorem Moves.exactOrOverflows {a : DateTime} {n : Int} {o : Outcome} (h : Moves a n o)
    (hleap : a.inLeapSecond = false) {t : Option DateTime}
    (ht : DateTime.ofTicks? (a.ticks + n) = t) : ExactOrOverflows (t.map .dateTime) o := by
  rw [Moves, hleap, if_neg Bool.false_ne_true, ht] at h
  exact h

/-! ### Moving by ticks -/

/-- Outside leap seconds the reading with the count is the only one. -/
theorem TicksOrOverflows.exactOrOverflows {n : Int} {o : Outcome} (h : TicksOrOverflows n o)
    (hleap : ∀ t : DateTime, o = .ok (.dateTime t) → t.inLeapSecond = false) :
    ExactOrOverflows ((DateTime.ofTicks? n).map .dateTime) o := by
  unfold TicksOrOverflows at h
  split at h
  · rename_i hn
    obtain ⟨t, ho, hmod, rfl⟩ := h
    have hin : t.inCalendar = true := by
      rw [DateTime.inCalendar, decide_eq_true hn.1, decide_eq_true hn.2, Bool.and_self]
    rw [DateTime.ofTicks?_eq_some_iff.2 ⟨hleap t ho, hmod, hin, rfl⟩]
    exact ho
  · rename_i hn
    rw [DateTime.ofTicks?, if_neg hn]
    exact h

theorem invoke_addTicks (a : DateTime) (t : Word .int64) (given : Option Regex) :
    invoke .addTicks [.dateTime a, .int64 t] given =
      (shiftDate a (.ofTicks t.val)).map .dateTime :=
  rfl

theorem add_subtract (a b : DateTime) :
    (arithmetic .subtract (.dateTime a) (.dateTime b) >>= arithmetic .add (.dateTime b)) =
      (shiftDate b (a.since b)).map .dateTime :=
  rfl

section Moving

variable {a : DateTime} (ha : a.nano.val % 100 = 0) (hin : a.inCalendar = true) (n : Int)
include ha hin

theorem shiftDate_ticks :
    TicksOrOverflows (a.ticksAfter n) ((shiftDate a (.ofTicks n)).map .dateTime) := by
  have hnano := DateTime.nanoseconds_add_ofTicks ha hin n
  have hiff := DateTime.inCalendar_iff hnano
  have hshift := DateTime.shiftDate_spec a (.ofTicks n)
  unfold TicksOrOverflows
  split
  · rename_i hn
    rw [if_pos (hiff.2 hn)] at hshift
    exact ⟨_, hshift, DateTime.add_nano_mod ha (Int.mul_emod_left n 100),
      DateTime.ticks_eq_of_mem hnano hn.1 hn.2⟩
  · rename_i hn
    rw [if_neg (mt hiff.1 hn)] at hshift
    exact hshift

theorem shiftDate_moves : Moves a n ((shiftDate a (.ofTicks n)).map .dateTime) := by
  have hticks := shiftDate_ticks ha hin n
  unfold Moves
  cases hleap : a.inLeapSecond with
  | true => exact hticks
  | false =>
      rw [DateTime.ticksAfter_eq hleap] at hticks
      refine hticks.exactOrOverflows fun t ht => ?_
      cases hshift : shiftDate a (.ofTicks n) with
      | error fault =>
          rw [hshift] at ht
          cases ht
      | ok t' =>
          rw [hshift] at ht
          cases ht
          rw [(DateTime.shiftDate_eq_ok hshift).1, DateTime.inLeapSecond_add hleap]

end Moving

/-! ### Main result -/

/-- A date of whole ticks is moved by ticks and by spans of them as adding moves the tick count, and
the span between two dates outside leap seconds leads from the one to the other. -/
theorem date_arithmetic_exact {a : DateTime} (ha : a.nano.val % 100 = 0)
    (hin : a.inCalendar = true) (t : Word .int64) (given : Option Regex) :
    Moves a t.val (invoke .addTicks [.dateTime a, .int64 t] given) ∧
      Moves a t.val (invoke .spanFromTicks [.int64 t] given >>= arithmetic .add (.dateTime a)) ∧
      Moves a (-t.val)
        (invoke .spanFromTicks [.int64 t] given >>= arithmetic .subtract (.dateTime a)) ∧
      ∀ b : DateTime, a.inLeapSecond = false → b.inLeapSecond = false →
        (arithmetic .subtract (.dateTime a) (.dateTime b) >>= arithmetic .add (.dateTime b)) =
          .ok (.dateTime a) := by
  refine ⟨?_, shiftDate_moves ha hin t.val, ?_, ?_⟩
  · rw [invoke_addTicks]
    exact shiftDate_moves ha hin t.val
  · have h := shiftDate_moves ha hin (-t.val)
    rw [← Span.neg_ofTicks] at h
    exact h
  · intro b hleap hleap'
    rw [add_subtract]
    exact DateTime.shiftDate_of_add_eq (DateTime.add_since hleap hleap') hin

/-- The last tick of year 9999 has one before it and none after it, and subtracting the least span
overflows as well. -/
theorem date_arithmetic_exact_last :
    let last : DateTime := ⟨3652058, 86399, 999999900⟩
    let least : Word .int64 := ⟨-9223372036854775808, by decide, by decide⟩
    last.nano.val % 100 = 0 ∧ last.inCalendar = true ∧
      invoke .addTicks [.dateTime last, .int64 ⟨-1, by decide, by decide⟩] none =
        .ok (.dateTime ⟨3652058, 86399, 999999800⟩) ∧
      Overflows (invoke .spanFromTicks [.int64 ⟨1, by decide, by decide⟩] none >>=
        arithmetic .add (.dateTime last)) ∧
      Overflows (invoke .spanFromTicks [.int64 least] none >>=
        arithmetic .subtract (.dateTime last)) ∧
      last.inLeapSecond = false ∧ DateTime.epoch.inLeapSecond = false ∧
      (arithmetic .subtract (.dateTime last) (.dateTime .epoch) >>=
        arithmetic .add (.dateTime .epoch)) = .ok (.dateTime last) := by
  intro last least
  have hmod : last.nano.val % 100 = 0 := by decide
  have hin : last.inCalendar = true := by decide
  have hleap : last.inLeapSecond = false := by decide
  have hbefore := date_arithmetic_exact hmod hin ⟨-1, by decide, by decide⟩ none
  have hafter := date_arithmetic_exact hmod hin ⟨1, by decide, by decide⟩ none
  have hleast := date_arithmetic_exact hmod hin least none
  have hticks : last.ticks = 3155378975999999999 := by decide
  have hsome : DateTime.ofTicks? (last.ticks + -1) = some ⟨3652058, 86399, 999999800⟩ := by
    rw [hticks]
    rfl
  have hnone : DateTime.ofTicks? (last.ticks + 1) = none := by
    rw [hticks]
    rfl
  have hnone' : DateTime.ofTicks? (last.ticks + -least.val) = none := by
    rw [hticks]
    rfl
  exact ⟨hmod, hin, hbefore.1.exactOrOverflows hleap hsome,
    hafter.2.1.exactOrOverflows hleap hnone, hleast.2.2.1.exactOrOverflows hleap hnone', hleap, rfl,
    hleast.2.2.2 .epoch hleap rfl⟩

/-- A second after the leap second at the end of 2016 it is midnight, which has the same ticks; and
the span from there to the second after midnight leads to midnight only. -/
theorem addTicks_leapSecond :
    let leap : DateTime := ⟨736328, 86399, 1000000000⟩
    let midnight : DateTime := .midnight 736329
    let after : DateTime := ⟨736329, 1, 0⟩
    leap.nano.val % 100 = 0 ∧ leap.inCalendar = true ∧ leap.ticks = 636188256000000000 ∧
      invoke .addTicks [.dateTime leap, .int64 ⟨10000000, by decide, by decide⟩] none =
        .ok (.dateTime midnight) ∧
      midnight.ticks = 636188256000000000 ∧
      (arithmetic .subtract (.dateTime after) (.dateTime leap) >>=
        arithmetic .add (.dateTime leap)) = .ok (.dateTime midnight) ∧ midnight ≠ after := by
  intro leap midnight after
  have hadd : leap.add (.ofTicks 10000000) = midnight := by decide +kernel
  have hsince : leap.add (after.since leap) = midnight := by decide +kernel
  have hin : midnight.inCalendar = true := by decide +kernel
  have hmoved := (invoke_addTicks leap ⟨10000000, by decide, by decide⟩ none).trans
    (DateTime.shiftDate_of_add_eq hadd hin)
  have hreached := (add_subtract after leap).trans (DateTime.shiftDate_of_add_eq hsince hin)
  exact ⟨by decide, by decide +kernel, by decide +kernel, hmoved, by decide +kernel, hreached,
    by decide⟩

/-! ### Dates through their ticks -/

/-- A reading in the years 1 to 9999 and whole ticks, and in no leap second. -/
structure IsTickReading (d : DateTime) : Prop where
  leap : d.inLeapSecond = false
  whole : d.nano.val % 100 = 0
  years : 1 ≤ d.date.year ∧ d.date.year ≤ 9999

/-- Where the ticks of a date lead to from the first date of the calendar. -/
def throughTicks (d : DateTime) : Outcome := do
  let ticks ← invoke (.datePart .ticks) [.dateTime d] none
  invoke .addTicks [.dateTime .epoch, ticks] none

variable {d d' : DateTime}

theorem inCalendar_iff_years (hleap : d.inLeapSecond = false) (hwhole : d.nano.val % 100 = 0) :
    d.inCalendar = true ↔ 1 ≤ d.date.year ∧ d.date.year ≤ 9999 := by
  have hmod := DateTime.nanoseconds_emod d
  rw [hwhole, Int.natCast_zero] at hmod
  have hdiv : d.nanoseconds = d.nanoseconds / 100 * 100 := by omega
  rw [DateTime.inCalendar_iff hdiv, DateTime.date, Time.year_bounds_iff, DateTime.nanoseconds,
    show DateTime.maxTicks = 3155378975999999999 from rfl]
  have hnano := DateTime.inLeapSecond_eq_false.1 hleap
  have hsecond := d.second.isLt
  omega

theorem isTickReading_iff : IsTickReading d ↔ DateTime.ofTicks? d.ticks = some d := by
  rw [DateTime.ofTicks?_eq_some_iff]
  constructor
  · rintro ⟨hleap, hwhole, hyears⟩
    exact ⟨hleap, hwhole, (inCalendar_iff_years hleap hwhole).2 hyears, rfl⟩
  · rintro ⟨hleap, hwhole, hin, -⟩
    exact ⟨hleap, hwhole, (inCalendar_iff_years hleap hwhole).1 hin⟩

/-- Ticks lead to the reading of the calendar that has them, and overflow if there is none. -/
theorem throughTicks_exact (d : DateTime) :
    ExactOrOverflows ((DateTime.ofTicks? d.ticks).map .dateTime) (throughTicks d) := by
  have hval : (Word.wrap .int64 d.ticks).val = d.ticks := by
    have hmin : WordKind.int64.min = -9223372036854775808 := rfl
    have hmax : WordKind.int64.max = 9223372036854775807 := rfl
    refine Time.wrap64_of_mem ?_ ?_ <;> rw [DateTime.ticks, Span.clampedTicks] <;> omega
  have hmoves := shiftDate_moves (a := .epoch) rfl rfl d.ticks
  show ExactOrOverflows _
    ((shiftDate .epoch (.ofTicks (Word.wrap .int64 d.ticks).val)).map .dateTime)
  rw [hval]
  refine hmoves.exactOrOverflows rfl ?_
  rw [show DateTime.epoch.ticks = 0 from rfl, Int.zero_add]

theorem overflows_throughTicks (h : DateTime.ofTicks? d.ticks = none) :
    Overflows (throughTicks d) := by
  have hexact := throughTicks_exact d
  rw [h] at hexact
  exact hexact

theorem throughTicks_of_ofTicks? {t : DateTime} (h : DateTime.ofTicks? d.ticks = some t) :
    throughTicks d = .ok (.dateTime t) := by
  have hexact := throughTicks_exact d
  rw [h] at hexact
  exact hexact

theorem throughTicks_eq_iff : throughTicks d = .ok (.dateTime d) ↔ IsTickReading d := by
  rw [isTickReading_iff]
  refine ⟨fun ho => ?_, throughTicks_of_ofTicks?⟩
  cases ht : DateTime.ofTicks? d.ticks with
  | none =>
      obtain ⟨value, target, herror⟩ := overflows_throughTicks ht
      rw [herror] at ho
      cases ho
  | some t =>
      rw [throughTicks_of_ofTicks? ht] at ho
      cases ho
      rfl

/-- A date that is read from JSON has a tick count of the calendar that leads back to it exactly if
it is a reading of the years 1 to 9999, in whole ticks and in no leap second; such dates are told
apart by their ticks.  The ticks of others lead to another date or overflow. -/
theorem throughTicks_decoded {j : Json} {v : Value} (h : Value.decode .dateTime j = .ok v) :
    ∃ d : DateTime, v = .dateTime d ∧
      ExactOrOverflows ((DateTime.ofTicks? d.ticks).map .dateTime) (throughTicks d) ∧
      ((0 ≤ d.ticks ∧ d.ticks ≤ DateTime.maxTicks) ∧ throughTicks d = .ok (.dateTime d) ↔
        IsTickReading d) ∧
      ∀ d' : DateTime, IsTickReading d → IsTickReading d' → d.ticks = d'.ticks → d = d' := by
  obtain ⟨d, rfl⟩ := Value.hasType_dateTime.1 (Value.decode_hasType .dateTime j v h)
  refine ⟨d, rfl, throughTicks_exact d, ?_, ?_⟩
  · rw [throughTicks_eq_iff]
    refine ⟨And.right, fun hd => ⟨?_, hd⟩⟩
    have hin := (inCalendar_iff_years hd.leap hd.whole).2 hd.years
    rw [DateTime.inCalendar, Bool.and_eq_true, decide_eq_true_iff, decide_eq_true_iff] at hin
    exact hin
  · intro d' hd hd' hticks
    rw [isTickReading_iff] at hd hd'
    rw [← hticks, hd] at hd'
    exact Option.some.inj hd'

/-- The last tick of a leap year's February. -/
theorem throughTicks_decoded_february :
    ∃ d : DateTime,
      Value.decode .dateTime (.string "2024-02-29T23:59:59.9999999") = .ok (.dateTime d) ∧
        d.ticks = 638448479999999999 ∧ throughTicks d = .ok (.dateTime d) := by
  have hread := Value.decode_of_parse? (s := "2024-02-29T23:59:59.9999999")
    (t := ⟨738944, 86399, 999999900⟩) rfl
  obtain ⟨d, hd, -, hiff, -⟩ := throughTicks_decoded hread
  cases hd
  exact ⟨_, hread, rfl, (hiff.2 ⟨by decide, by decide, by decide⟩).2⟩

/-- Year 10000 and year 0 are out of the calendar, a nanosecond after midnight has the ticks of
midnight, and so has the leap second before it. -/
theorem throughTicks_decoded_outside :
    let midnight : DateTime := .midnight 738885
    let leap : DateTime := ⟨736328, 86399, 1000000000⟩
    (Value.decode .dateTime (.string "+10000-01-01") = .ok (.dateTime (.midnight 3652059)) ∧
      (DateTime.midnight 3652059).ticks = DateTime.maxTicks + 1 ∧
      Overflows (throughTicks (.midnight 3652059))) ∧
    (Value.decode .dateTime (.string "0000-12-31") = .ok (.dateTime (.midnight (-1))) ∧
      (DateTime.midnight (-1)).ticks < 0 ∧ Overflows (throughTicks (.midnight (-1)))) ∧
    (Value.decode .dateTime (.string "2024-01-01") = .ok (.dateTime midnight) ∧
      Value.decode .dateTime (.string "2024-01-01T00:00:00.000000001") =
        .ok (.dateTime { midnight with nano := 1 }) ∧
      ({ midnight with nano := 1 } : DateTime).ticks = midnight.ticks) ∧
    (Value.decode .dateTime (.string "2016-12-31T23:59:60") = .ok (.dateTime leap) ∧
      throughTicks leap = .ok (.dateTime (.midnight 736329))) := by
  intro midnight leap
  exact ⟨⟨Value.decode_of_parse? rfl, rfl, overflows_throughTicks rfl⟩,
    ⟨Value.decode_of_parse? rfl, by decide, overflows_throughTicks rfl⟩,
    ⟨Value.decode_of_parse? rfl, Value.decode_of_parse? rfl, by decide⟩,
    Value.decode_of_parse? rfl,
    throughTicks_of_ofTicks? (d := ⟨736328, 86399, 1000000000⟩) rfl⟩

end Elementwise.Eval
