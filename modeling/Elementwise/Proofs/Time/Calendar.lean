import Elementwise.Time.Calendar

/-!
Days and dates.  The year of a day is the one whose first day is the last before it, the month the
one whose days it is among; so the date of a day is a date of the calendar, and its day is that day.
-/

namespace Elementwise.Time

/-! ### Years -/

/-- The number of days in a year. -/
def yearLength (year : Int) : Nat :=
  if isLeapYear year then 366 else 365

section YearOfCycle

variable {cycle : Int} {century four year : Nat} (hcentury : century ≤ 3) (hfour : four ≤ 24)
  (hyear : year ≤ 3)
include hcentury hfour hyear

theorem daysBeforeYear_ofCycle :
    daysBeforeYear (cycle * 400 + century * 100 + four * 4 + year + 1) =
      cycle * 146097 + century * 36524 + four * 1461 + year * 365 := by
  rw [daysBeforeYear]
  omega

/-- The last of four years is a leap year, but for three of four centuries not at their end. -/
theorem yearLength_ofCycle :
    yearLength (cycle * 400 + century * 100 + four * 4 + year + 1) =
      if year = 3 ∧ (four = 24 → century = 3) then 366 else 365 := by
  have hleap : isLeapYear (cycle * 400 + century * 100 + four * 4 + year + 1) = true ↔
      year = 3 ∧ (four = 24 → century = 3) := by
    simp only [isLeapYear, Bool.and_eq_true, Bool.or_eq_true, beq_iff_eq, bne_iff_ne]
    omega
  simp only [yearLength, hleap]

end YearOfCycle

/-- A day is one of the days of its year. -/
theorem yearDay_spec (day : Int) :
    daysBeforeYear (yearDay day).year + (yearDay day).day = day ∧
      (yearDay day).day < yearLength (yearDay day).year := by
  rw [yearDay]
  dsimp only
  generalize hr : (day % 146097).toNat = r
  generalize hcentury : min 3 (r / 36524) = century
  generalize hr₁ : r - century * 36524 = r₁
  generalize hfour : r₁ / 1461 = four
  generalize hr₂ : r₁ - four * 1461 = r₂
  generalize hyear : min 3 (r₂ / 365) = year
  have hcentury' : century ≤ 3 := by omega
  have hfour' : four ≤ 24 := by omega
  have hyear' : year ≤ 3 := by omega
  rw [daysBeforeYear_ofCycle hcentury' hfour' hyear', yearLength_ofCycle hcentury' hfour' hyear']
  constructor
  · omega
  · split <;> omega

theorem foldl_monthLengths (year : Int) :
    (monthLengths year).foldl (· + ·) 0 = yearLength year := by
  rw [monthLengths, yearLength]
  split <;> rfl

/-! ### Months -/

theorem foldl_cons_add (length : Nat) (lengths : List Nat) :
    (length :: lengths).foldl (· + ·) 0 = length + lengths.foldl (· + ·) 0 := by
  rw [List.foldl_cons, Nat.add_comm 0, List.foldl_assoc]

/-- A day in the year is one of the days of its month, which come after those of the months
before. -/
theorem monthAndDay_spec {lengths : List Nat} {d : Nat} (month : Nat)
    (h : d < lengths.foldl (· + ·) 0) :
    ∃ i length r, monthAndDay lengths month d = (month + i, r + 1) ∧ lengths[i]? = some length ∧
      r < length ∧ (lengths.take i).foldl (· + ·) 0 + r = d := by
  induction lengths generalizing month d with
  | nil => exact absurd h (Nat.not_lt_zero d)
  | cons length lengths ih =>
      rw [monthAndDay]
      split
      · rename_i hd
        exact ⟨0, length, d, rfl, rfl, hd, Nat.zero_add d⟩
      · rw [foldl_cons_add] at h
        obtain ⟨i, length', r, hdate, hi, hr, hd⟩ := ih (month + 1) (d := d - length) (by omega)
        refine ⟨i + 1, length', r, ?_, hi, hr, ?_⟩
        · rw [hdate]
          congr 1
          omega
        · rw [List.take_succ_cons, foldl_cons_add]
          omega

/-! ### Dates -/

theorem le_of_mem_monthLengths (year : Int) : ∀ length ∈ monthLengths year, length ≤ 31 := by
  rw [monthLengths]
  split <;> decide

theorem bounds_of_dayOf? {year : Int} {month day : Nat} {n : Int}
    (h : dayOf? year month day = some n) : month ≤ 12 ∧ day ≤ 31 := by
  unfold dayOf? at h
  split at h
  · rename_i length hlength
    unfold daysInMonth? at hlength
    split at hlength
    · cases hlength
    · obtain ⟨hmonth, hget⟩ := List.getElem?_eq_some_iff.1 hlength
      have hle : length ≤ 31 :=
        le_of_mem_monthLengths year length (hget ▸ List.getElem_mem hmonth)
      have hcount : (monthLengths year).length = 12 := rfl
      split at h
      · rename_i hday
        rw [Bool.and_eq_true, decide_eq_true_iff, decide_eq_true_iff] at hday
        omega
      · cases h
  · cases h

/-- The date of a day is a date of the calendar, and its day is that day. -/
theorem dayOf?_date (day : Int) :
    dayOf? (date day).year (date day).month (date day).day = some day := by
  obtain ⟨hday, hlt⟩ := yearDay_spec day
  rw [← foldl_monthLengths] at hlt
  obtain ⟨i, length, r, hdate, hlength, hr, hd⟩ := monthAndDay_spec 1 hlt
  have hmonth : daysInMonth? (yearDay day).year (1 + i) = some length := by
    rw [daysInMonth?, if_neg (by omega), Nat.add_sub_cancel_left, hlength]
  have hmem : (decide (1 ≤ r + 1) && decide (r + 1 ≤ length)) = true := by
    rw [Bool.and_eq_true, decide_eq_true_iff, decide_eq_true_iff]
    omega
  rw [date]
  dsimp only
  rw [hdate]
  dsimp only
  rw [dayOf?, hmonth]
  dsimp only
  rw [if_pos hmem, daysBeforeMonth, Nat.add_sub_cancel_left, Nat.add_sub_cancel]
  congr 1
  omega

end Elementwise.Time
