import Elementwise.Eval.Arithmetic
import Elementwise.Proofs.Time.Calendar
import Elementwise.Proofs.Time.Span

/-!
The years 1 to 9999 in the count of days, and how far from them dates and spans get.  The check on a
date that was moved counts ticks, and the ticks of a date just before year 1 are cut to zero; so a
reading of whole ticks stays in these years, and any other may end in the last tick before them.
-/

namespace Elementwise.Time

open Eval (shiftDate shiftOffsetDate)

/-! ### Years -/

theorem year_bounds_iff (day : Int) :
    1 ≤ (date day).year ∧ (date day).year ≤ 9999 ↔ 0 ≤ day ∧ day < 3652059 := by
  have hyear : (date day).year = (yearDay day).year := rfl
  obtain ⟨hday, hlt⟩ := yearDay_spec day
  rw [hyear]
  generalize (yearDay day).year = year at hday hlt ⊢
  have hlength : yearLength year ≤ 366 := by
    unfold yearLength
    split <;> decide
  have hlast : year = 9999 → yearLength year = 365 := by
    rintro rfl
    rfl
  have hbefore : year = 0 → yearLength year = 366 := by
    rintro rfl
    rfl
  -- the count of leap years is exact at the ends only
  rw [daysBeforeYear] at hday
  constructor <;> intro h <;> constructor
  · omega
  · by_cases h' : year = 9999
    · subst h'
      omega
    · omega
  · by_cases h' : year = 0
    · subst h'
      omega
    · omega
  · by_cases h' : year = 10000
    · subst h'
      omega
    · omega

/-! ### Whole ticks -/

theorem lt_of_zero_le_tdiv {n : Int} (h : 0 ≤ n.tdiv 100) : -100 < n := by
  have hlt := Int.lt_tdiv_add_one_mul_self (-n) (show (0 : Int) < 100 by decide)
  rw [Int.neg_tdiv] at hlt
  omega

theorem lt_of_tdiv_le {n m : Int} (h : n.tdiv 100 ≤ m) : n < (m + 1) * 100 := by
  have hlt := Int.lt_tdiv_add_one_mul_self n (show (0 : Int) < 100 by decide)
  omega

namespace Span

variable {s : Span}

/-- Spans of some 14 000 years, either way, are in range. -/
theorem isSome_ticks? (hmin : -450000000000000000000 ≤ s.nanoseconds)
    (hmax : s.nanoseconds ≤ 450000000000000000000) : s.ticks?.isSome = true := by
  have hdiv : s.wholeTicks = s.nanoseconds.tdiv 100 := rfl
  have hsign : (100 : Int).sign = 1 := rfl
  rw [Int.tdiv_eq_ediv, hsign] at hdiv
  rw [ticks?, ofInt?_of_mem]
  · rfl
  · rw [hdiv]
    split <;> omega
  · rw [hdiv]
    split <;> omega

theorem isSome_ticks?_ofTicks (w : Number.Word .int64) : (ofTicks w.val).ticks?.isSome = true := by
  rw [ticks?, wholeTicks_ofTicks, ofInt?_of_mem w.min_le w.le_max]
  rfl

end Span

namespace DateTime

variable {t t' a b : DateTime} {s : Span}

/-- Nanoseconds from the epoch on. -/
def nanoseconds (t : DateTime) : Int :=
  (t.day * 86400 + t.second.val) * 1000000000 + t.nano.val

theorem since_epoch (t : DateTime) : t.since epoch = ⟨t.nanoseconds⟩ := by
  have hleap : epoch.inLeapSecond = false := rfl
  have hsecond : ¬t.second < epoch.second := Nat.not_lt_zero _
  rw [since, hleap, Bool.and_false, if_neg Bool.false_ne_true, if_neg (by simp [hsecond])]
  have hday : epoch.day = 0 := rfl
  have hzero : ((epoch.second.val : Nat) : Int) = 0 := rfl
  have hnano : ((epoch.nano.val : Nat) : Int) = 0 := rfl
  rw [hday, hzero, hnano, nanoseconds]
  congr 1
  omega

theorem bounds_of_inCalendar (h : t.inCalendar = true) :
    -100 < t.nanoseconds ∧ t.nanoseconds < 315537897600000000000 := by
  rw [inCalendar, Bool.and_eq_true, decide_eq_true_iff, decide_eq_true_iff, ticks,
    since_epoch] at h
  obtain ⟨hmin, hmax⟩ := h
  rw [Span.clampedTicks] at hmin hmax
  have hint : Number.WordKind.int64.min = -9223372036854775808 := rfl
  have hint' : Number.WordKind.int64.max = 9223372036854775807 := rfl
  have hticks : maxTicks = 3155378975999999999 := rfl
  have hwhole : (⟨t.nanoseconds⟩ : Span).wholeTicks = t.nanoseconds.tdiv 100 := rfl
  rw [hint, hint', hwhole] at hmin hmax
  exact ⟨lt_of_zero_le_tdiv (by omega), lt_of_tdiv_le (m := 3155378975999999999) (by omega)⟩

/-! ### Moving a date -/

/-- A date that is moved leaves its leap second or else its day is the same. -/
theorem add_day_or (t : DateTime) (s : Span) :
    (t.add s).day = t.day ∨ (t.add s).nano.val < 1000000000 := by
  have hnano (day n : Int) : (atNanosecond day n).nano.val < 1000000000 := by
    rw [atNanosecond]
    dsimp only
    omega
  unfold add
  dsimp only
  split
  · split
    · exact Or.inr (hnano _ _)
    · split
      · exact Or.inr (hnano _ _)
      · exact Or.inl rfl
  · exact Or.inr (hnano _ _)

theorem atNanosecond_nano_mod {n : Int} (day : Int) (h : n % 100 = 0) :
    (atNanosecond day n).nano.val % 100 = 0 := by
  rw [atNanosecond]
  dsimp only
  omega

theorem add_nano_mod (ht : t.nano.val % 100 = 0) (hs : s.nanoseconds % 100 = 0) :
    (t.add s).nano.val % 100 = 0 := by
  have hrest : s.nanoseconds.tmod 1000000000 % 100 = 0 := by
    rw [Int.tmod_eq_emod]
    split <;> omega
  unfold add
  dsimp only
  split
  · split
    · exact atNanosecond_nano_mod _ (by omega)
    · split
      · exact atNanosecond_nano_mod _ (by omega)
      · dsimp only
        omega
  · exact atNanosecond_nano_mod _ (by omega)

theorem add?_eq_some (h : t.add? s = some t') : t' = t.add s := by
  unfold add? at h
  dsimp only at h
  split at h
  · exact (Option.some.inj h).symm
  · cases h

theorem shiftDate_eq_ok (h : shiftDate t s = .ok t') : t' = t.add s ∧ t'.inCalendar = true := by
  unfold shiftDate at h
  split at h
  · cases h
  · rename_i r hr
    split at h
    · rename_i hin
      cases h
      exact ⟨add?_eq_some hr, hin⟩
    · cases h

/-- A date that is moved ends on the same day, in the years 1 to 9999 or on the day before them. -/
theorem day_of_shiftDate (h : shiftDate t s = .ok t') :
    t'.day = t.day ∨ -1 ≤ t'.day ∧ t'.day < 3652059 := by
  obtain ⟨rfl, hin⟩ := shiftDate_eq_ok h
  obtain ⟨hmin, hmax⟩ := bounds_of_inCalendar hin
  refine (add_day_or t s).imp_right fun hnano => ?_
  rw [nanoseconds] at hmin hmax
  omega

/-- In whole ticks it does not end on the day before them. -/
theorem day_of_shiftDate_of_mod (ht : t.nano.val % 100 = 0) (hs : s.nanoseconds % 100 = 0)
    (h : shiftDate t s = .ok t') : t'.day = t.day ∨ 0 ≤ t'.day ∧ t'.day < 3652059 := by
  obtain ⟨rfl, hin⟩ := shiftDate_eq_ok h
  obtain ⟨hmin, hmax⟩ := bounds_of_inCalendar hin
  have hmod := add_nano_mod ht hs
  refine (add_day_or t s).imp_right fun hnano => ?_
  rw [nanoseconds] at hmin hmax
  omega

/-! ### Spans between dates -/

theorem exists_since (a b : DateTime) : ∃ leap : Int, -1 ≤ leap ∧ leap ≤ 1 ∧
    (a.since b).nanoseconds = ((a.day - b.day) * 86400 + ((a.second.val : Int) - b.second.val) +
      leap) * 1000000000 + ((a.nano.val : Int) - b.nano.val) := by
  refine ⟨_, ?_, ?_, rfl⟩
  · split
    · decide
    · split <;> decide
  · split
    · decide
    · split <;> decide

theorem isSome_ticks?_since (ha : -2 ≤ a.day ∧ a.day ≤ 3652059)
    (hb : -2 ≤ b.day ∧ b.day ≤ 3652059) : (a.since b).ticks?.isSome = true := by
  obtain ⟨leap, hmin, hmax, hsince⟩ := exists_since a b
  refine Span.isSome_ticks? ?_ ?_
  · rw [hsince]
    omega
  · rw [hsince]
    omega

theorem since_mod (ha : a.nano.val % 100 = 0) (hb : b.nano.val % 100 = 0) :
    (a.since b).nanoseconds % 100 = 0 := by
  obtain ⟨leap, -, -, hsince⟩ := exists_since a b
  rw [hsince]
  omega

theorem isSome_ticks?_timeOfDay (t : DateTime) : t.timeOfDay.ticks?.isSome = true := by
  refine Span.isSome_ticks? ?_ ?_
  · rw [timeOfDay]
    dsimp only
    omega
  · rw [timeOfDay]
    dsimp only
    omega

theorem timeOfDay_mod (ht : t.nano.val % 100 = 0) : t.timeOfDay.nanoseconds % 100 = 0 := by
  rw [timeOfDay]
  dsimp only
  omega

end DateTime

/-! ### Universal time -/

/-- Universal time is on the day of the clock or on one next to it. -/
theorem OffsetDateTime.day_utc {t : OffsetDateTime} (h : t.offset.natAbs ≤ 86400) :
    t.clock.day - 1 ≤ t.utc.day ∧ t.utc.day ≤ t.clock.day + 1 := by
  rw [utc, DateTime.shiftSeconds]
  dsimp only
  omega

theorem OffsetDateTime.isSome_ticks?_offset {t : OffsetDateTime} (h : t.offset.natAbs ≤ 86400) :
    (Span.ofSeconds t.offset).ticks?.isSome = true := by
  refine Span.isSome_ticks? ?_ ?_
  · rw [Span.ofSeconds]
    dsimp only
    omega
  · rw [Span.ofSeconds]
    dsimp only
    omega

end Elementwise.Time
