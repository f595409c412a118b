import Elementwise.Proofs.Bounds.Evaluation
import Elementwise.Proofs.Hereditary.Binding
import Elementwise.Proofs.Soundness.Stage
import Elementwise.Proofs.Time.Years

/-!
How far from the years 1 to 9999 the dates get that a stage makes of an element in these years.  Two
ways lead out.  A date is taken to universal time without a check, up to a day further on; and the
check on a date that was moved counts ticks toward zero, so that the last tick before year 1 passes.
Where neither is met, since no call reads universal time and the element is in whole ticks, all dates
stay in the calendar.  Spans are always in the 64-bit range of ticks.
-/

namespace Elementwise

open Eval
open Time (Span DateTime OffsetDateTime)

namespace TimeBounds

/-! ### The calendar -/

/-- The years 1 to 9999, offsets of at most a day, and the 64-bit range of ticks. -/
def calendar : TimeBounds where
  date t := 1 ≤ t.date.year ∧ t.date.year ≤ 9999
  offsetDate t := (1 ≤ t.clock.date.year ∧ t.clock.date.year ≤ 9999) ∧ t.offset.natAbs ≤ 86400
  span s := s.ticks?.isSome = true

/-- Nothing between two ticks of the clock. -/
def wholeTicks : TimeBounds where
  date t := t.nano.val % 100 = 0
  offsetDate t := t.clock.nano.val % 100 = 0
  span s := s.nanoseconds % 100 = 0

/-- Clock readings in the calendar or on the day before it, and dates without an offset so many days
further out. -/
def nearCalendar (days : Nat) : TimeBounds where
  date t := -1 - days ≤ t.day ∧ t.day ≤ 3652058 + days
  offsetDate t := (-1 ≤ t.clock.day ∧ t.clock.day ≤ 3652058) ∧ t.offset.natAbs ≤ 86400
  span s := s.ticks?.isSome = true

/-! ### Closed bounds -/

theorem shiftOffsetDate_eq_ok {t t' : OffsetDateTime} {s : Span}
    (h : shiftOffsetDate t s = .ok t') :
    shiftDate t.clock s = .ok t'.clock ∧ t'.offset = t.offset := by
  obtain ⟨clock, hclock, rfl⟩ := map_eq_ok h
  exact ⟨hclock, rfl⟩

/-- A date that was moved may be on the day before the calendar, so the bounds have to hold that day.
The days further out are limited only to keep the spans between such dates in range. -/
theorem nearCalendar_closed {days : Nat} (hdays : days ≤ 1) : (nearCalendar days).Closed where
  epoch := by
    have hday : DateTime.epoch.day = 0 := rfl
    constructor <;> omega
  offsetEpoch := ⟨by decide, by decide⟩
  ofTicks := Span.isSome_ticks?_ofTicks
  shift {t t' s} ht _ h := by
    obtain ⟨hmin, hmax⟩ := ht
    have hday := DateTime.day_of_shiftDate h
    constructor <;> omega
  shiftOffset {t t' s} ht _ h := by
    obtain ⟨⟨hmin, hmax⟩, hoffset⟩ := ht
    obtain ⟨hclock, heq⟩ := shiftOffsetDate_eq_ok h
    have hday := DateTime.day_of_shiftDate hclock
    exact ⟨⟨by omega, by omega⟩, heq ▸ hoffset⟩
  since {a b} ha hb := by
    obtain ⟨hamin, hamax⟩ := ha
    obtain ⟨hbmin, hbmax⟩ := hb
    exact DateTime.isSome_ticks?_since (by omega) (by omega)
  sinceUtc {a b} ha hb := by
    obtain ⟨⟨hamin, hamax⟩, haoffset⟩ := ha
    obtain ⟨⟨hbmin, hbmax⟩, hboffset⟩ := hb
    have haday := OffsetDateTime.day_utc haoffset
    have hbday := OffsetDateTime.day_utc hboffset
    exact DateTime.isSome_ticks?_since (by omega) (by omega)
  add _ _ h := h
  neg _ h := h
  midnight ht := ht
  timeOfDay {t} _ := t.isSome_ticks?_timeOfDay
  clock {t} ht := by
    obtain ⟨⟨hmin, hmax⟩, -⟩ := ht
    constructor <;> omega
  offset ht := OffsetDateTime.isSome_ticks?_offset ht.2

/-- A day of leeway is what universal time needs. -/
theorem nearCalendar_holdsUtc : (nearCalendar 1).HoldsUtc := by
  rintro t ⟨⟨hmin, hmax⟩, hoffset⟩
  have hday := OffsetDateTime.day_utc hoffset
  constructor <;> omega

theorem calendar_le_nearCalendar (days : Nat) : calendar.Le (nearCalendar days) where
  date t h := by
    obtain ⟨hmin, hmax⟩ := (Time.year_bounds_iff t.day).1 h
    constructor <;> omega
  offsetDate t h := by
    obtain ⟨hmin, hmax⟩ := (Time.year_bounds_iff t.clock.day).1 h.1
    exact ⟨⟨by omega, by omega⟩, h.2⟩
  span _ h := h

theorem nanoseconds_mod {s : Span}
    (h : (calendar.inter wholeTicks).span s ∨ (calendar.inter wholeTicks).span s.neg) :
    s.nanoseconds % 100 = 0 := by
  rcases h with ⟨-, h⟩ | ⟨-, h⟩
  · exact h
  · have hneg : -s.nanoseconds % 100 = 0 := h
    omega

theorem year_of_shiftDate {t t' : DateTime} {s : Span} (ht : 1 ≤ t.date.year ∧ t.date.year ≤ 9999)
    (hnano : t.nano.val % 100 = 0) (hs : s.nanoseconds % 100 = 0) (h : shiftDate t s = .ok t') :
    1 ≤ t'.date.year ∧ t'.date.year ≤ 9999 := by
  refine (Time.year_bounds_iff t'.day).2 ?_
  obtain ⟨hmin, hmax⟩ := (Time.year_bounds_iff t.day).1 ht
  have hday := DateTime.day_of_shiftDate_of_mod hnano hs h
  constructor <;> omega

theorem nano_mod_of_shiftDate {t t' : DateTime} {s : Span} (hnano : t.nano.val % 100 = 0)
    (hs : s.nanoseconds % 100 = 0) (h : shiftDate t s = .ok t') : t'.nano.val % 100 = 0 := by
  obtain ⟨rfl, -⟩ := DateTime.shiftDate_eq_ok h
  exact DateTime.add_nano_mod hnano hs

/-- In whole ticks the check on moved dates is exact. -/
theorem calendar_closed : (calendar.inter wholeTicks).Closed where
  epoch := ⟨(Time.year_bounds_iff 0).2 (by decide), rfl⟩
  offsetEpoch := ⟨⟨(Time.year_bounds_iff 0).2 (by decide), by decide⟩, rfl⟩
  ofTicks w := ⟨Span.isSome_ticks?_ofTicks w, Int.mul_emod_left ..⟩
  shift ht hs h :=
    ⟨year_of_shiftDate ht.1 ht.2 (nanoseconds_mod hs) h,
      nano_mod_of_shiftDate ht.2 (nanoseconds_mod hs) h⟩
  shiftOffset {t t' s} ht hs h := by
    obtain ⟨hclock, heq⟩ := shiftOffsetDate_eq_ok h
    refine ⟨⟨year_of_shiftDate ht.1.1 ht.2 (nanoseconds_mod hs) hclock, heq ▸ ht.1.2⟩, ?_⟩
    exact nano_mod_of_shiftDate ht.2 (nanoseconds_mod hs) hclock
  since {a b} ha hb := by
    obtain ⟨hamin, hamax⟩ := (Time.year_bounds_iff a.day).1 ha.1
    obtain ⟨hbmin, hbmax⟩ := (Time.year_bounds_iff b.day).1 hb.1
    exact ⟨DateTime.isSome_ticks?_since (by omega) (by omega), DateTime.since_mod ha.2 hb.2⟩
  sinceUtc {a b} ha hb := by
    obtain ⟨hamin, hamax⟩ := (Time.year_bounds_iff a.clock.day).1 ha.1.1
    obtain ⟨hbmin, hbmax⟩ := (Time.year_bounds_iff b.clock.day).1 hb.1.1
    have haday := OffsetDateTime.day_utc ha.1.2
    have hbday := OffsetDateTime.day_utc hb.1.2
    exact ⟨DateTime.isSome_ticks?_since (by omega) (by omega), DateTime.since_mod ha.2 hb.2⟩
  add {s t} hs ht h := by
    have hsmod : s.nanoseconds % 100 = 0 := hs.2
    have htmod := nanoseconds_mod ht
    refine ⟨h, ?_⟩
    show (s.nanoseconds + t.nanoseconds) % 100 = 0
    omega
  neg {s} hs h := by
    have hmod : s.nanoseconds % 100 = 0 := hs.2
    refine ⟨h, ?_⟩
    show -s.nanoseconds % 100 = 0
    omega
  midnight ht := ⟨ht.1, rfl⟩
  timeOfDay {t} ht := ⟨t.isSome_ticks?_timeOfDay, DateTime.timeOfDay_mod ht.2⟩
  clock ht := ⟨ht.1.1, ht.2⟩
  offset {t} ht := by
    refine ⟨OffsetDateTime.isSome_ticks?_offset ht.1.2, ?_⟩
    show t.offset * 1000000000 % 100 = 0
    omega

/-! ### The constants of the library -/

/-- The value is a date or a span of whole ticks in the calendar, or it holds neither dates nor
spans. -/
def admits : Value → Bool
  | .dateTime t => 0 ≤ t.day && t.day < 3652059 && t.nano.val % 100 == 0
  | .dateTimeOffset t =>
    0 ≤ t.clock.day && t.clock.day < 3652059 && t.clock.nano.val % 100 == 0 &&
      t.offset.natAbs ≤ 86400
  | .timeSpan s => s.ticks?.isSome && s.nanoseconds % 100 == 0
  | .array _ | .record _ _ => false
  | _ => true

theorem within_of_admits {v : Value} (h : admits v = true) :
    v.Within (calendar.inter wholeTicks) := by
  cases v with
  | dateTime t =>
      simp only [admits, Bool.and_eq_true, decide_eq_true_iff, beq_iff_eq] at h
      exact ⟨(Time.year_bounds_iff t.day).2 h.1, h.2⟩
  | dateTimeOffset t =>
      simp only [admits, Bool.and_eq_true, decide_eq_true_iff, beq_iff_eq] at h
      exact ⟨⟨(Time.year_bounds_iff t.clock.day).2 h.1.1, h.2⟩, h.1.2⟩
  | timeSpan s =>
      simp only [admits, Bool.and_eq_true, beq_iff_eq] at h
      exact h
  | array | record => cases h
  | _ => trivial

theorem calendar_holdsLibrary : HoldsLibrary (calendar.inter wholeTicks) := fun _ hs _ _ _ hv =>
  within_of_admits (Library.constant_of_all (p := admits) (by decide +kernel) hs hv)

end TimeBounds

/-! ### Stages -/

namespace Stage

open TimeBounds

variable {catalog : Catalog} {text : String} {input : Ty} {s : Stage}

theorem run_within {B : TimeBounds} (hB : B.Closed) (hlib : HoldsLibrary B)
    (hc : catalog.Composed) (h : build catalog text input = .ok s)
    (hutc : s.term.ReadsUtc → B.HoldsUtc) {element v : Value} (he : element.Within B)
    (hv : s.run element = .ok v) : v.Within B := by
  have hresult := evaluate_ensures (within_preserved hB hlib) hc h he
    (fun _ _ hpart hreads => hutc (hpart.readsUtc hreads)) .root
  exact hresult.of_eq_ok hv

/-- What a stage makes of an element in the calendar: spans are in range, and dates are in the calendar
or on the day before it, but those of universal time may be a day further out on either side.  If no
universal time is read, an element of whole ticks does not lead out of the calendar. -/
theorem run_inCalendar (hc : catalog.Composed) (h : build catalog text input = .ok s)
    {element v : Value} (he : element.Within calendar) (hv : s.run element = .ok v) :
    v.Within (nearCalendar 1) ∧
    (¬s.term.ReadsUtc → v.Within (nearCalendar 0)) ∧
    (¬s.term.ReadsUtc → element.Within wholeTicks → v.Within calendar) := by
  have hlib (days : Nat) : HoldsLibrary (nearCalendar days) := fun s hs name ty v hv =>
    ((calendar_holdsLibrary s hs name ty v hv).mono (inter_le_left ..)).mono
      (calendar_le_nearCalendar days)
  refine ⟨?_, fun hutc => ?_, fun hutc hticks => ?_⟩
  · exact run_within (nearCalendar_closed (by decide)) (hlib 1) hc h
      (fun _ => nearCalendar_holdsUtc) (he.mono (calendar_le_nearCalendar 1)) hv
  · exact run_within (nearCalendar_closed (by decide)) (hlib 0) hc h (absurd · hutc)
      (he.mono (calendar_le_nearCalendar 0)) hv
  · exact (run_within calendar_closed calendar_holdsLibrary hc h (absurd · hutc)
      (he.inter hticks) hv).mono (inter_le_left ..)

/-- One tick after the beginning of year 1. -/
theorem run_inCalendar_addTicks :
    ∃ s v, build .standard "it.AddTicks(1)" .dateTime = .ok s ∧
      s.run (.dateTime .epoch) = .ok v ∧ v.Within (nearCalendar 1) ∧ v.Within (nearCalendar 0) ∧
      v.Within calendar := by
  obtain ⟨s, v, hs, hv, hutc⟩ : ∃ s v, build .standard "it.AddTicks(1)" .dateTime = .ok s ∧
      s.run (.dateTime .epoch) = .ok v ∧ (!decide s.term.ReadsUtc) = true :=
    exists_run (by decide +kernel)
  have hutc : ¬s.term.ReadsUtc := by simpa using hutc
  have hepoch : (Value.dateTime .epoch).Within calendar := (Time.year_bounds_iff 0).2 (by decide)
  obtain ⟨hnear, hnearer, hin⟩ := run_inCalendar .standard hs hepoch hv
  exact ⟨s, v, hs, hv, hnear, hnearer hutc, hin hutc rfl⟩

/-- The value is a date before year 1 or after year 9999. -/
def isOutside : Value → Bool
  | .dateTime t => t.date.year < 1 || 9999 < t.date.year
  | _ => false

theorem not_within_of_isOutside {v : Value} (h : isOutside v = true) : ¬v.Within calendar := by
  unfold isOutside at h
  split at h
  · rw [Bool.or_eq_true, decide_eq_true_iff, decide_eq_true_iff] at h
    rintro ⟨hmin, hmax⟩
    omega
  · cases h

theorem exists_outside {element : Value}
    (h : (build catalog text input).toOption.any (fun s =>
      (s.run element).toOption.any isOutside) = true) :
    ∃ s v, build catalog text input = .ok s ∧ s.run element = .ok v ∧ ¬v.Within calendar := by
  obtain ⟨s, v, hs, hv, hout⟩ := exists_run h
  exact ⟨s, v, hs, hv, not_within_of_isOutside hout⟩

/-- Both ways out of the calendar are open: the universal time of a clock that is ahead of it, and
the tick before a date that is less than a tick into year 1. -/
theorem run_outside :
    (∃ s v, build .standard "it.UtcDateTime" .dateTimeOffset = .ok s ∧
      s.run (.dateTimeOffset ⟨.epoch, 3600⟩) = .ok v ∧ ¬v.Within calendar) ∧
    (∃ s v, build .standard "it.AddTicks(-1)" .dateTime = .ok s ∧
      s.run (.dateTime ⟨0, 0, 50⟩) = .ok v ∧ ¬v.Within calendar) ∧
    (Value.dateTimeOffset ⟨.epoch, 3600⟩).Within calendar ∧
    (Value.dateTime ⟨0, 0, 50⟩).Within calendar := by
  have hyear := (Time.year_bounds_iff 0).2 (by decide)
  exact ⟨exists_outside (by decide +kernel), exists_outside (by decide +kernel),
    ⟨hyear, by decide⟩, hyear⟩

end Stage

end Elementwise
