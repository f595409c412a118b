import Elementwise.Proofs.Text.Numeral
import Elementwise.Proofs.Time.Calendar
import Elementwise.Time.Reading
import Elementwise.Time.Text

/-!
Dates read back from the form that JSON has for them.  Every field ends where something other than a
digit comes, so it is read to its end and nothing beyond; that is all the reading of the next field
relies on.
-/

namespace Elementwise.Time

open Text (padded ofDigits isAsciiDigit)

variable {least most width n : Nat} {ds rest : List Char}

/-! ### Fields -/

theorem isSpace_of_isAsciiDigit {c : Char} (h : isAsciiDigit c = true) :
    Text.isSpace c = false := by
  have hrange := Text.toNat_of_isAsciiDigit h
  simp only [Text.isSpace, Text.inRanges, Text.whiteSpaceRanges, List.any_cons, List.any_nil,
    Bool.or_eq_false_iff, Bool.and_eq_false_iff, decide_eq_false_iff_not, and_true]
  omega

theorem exists_digit (width n : Nat) (rest : List Char) :
    ∃ c cs, padded width n ++ rest = c :: cs ∧ isAsciiDigit c = true := by
  obtain ⟨c, cs, h⟩ := List.exists_cons_of_ne_nil (Text.padded_ne_nil width n)
  have hmem : c ∈ padded width n := h ▸ List.mem_cons_self ..
  exact ⟨c, cs ++ rest, by rw [h, List.cons_append], Text.isAsciiDigit_of_mem_padded hmem⟩

theorem trimStart_padded (width n : Nat) (rest : List Char) :
    Text.trimStart (padded width n ++ rest) = padded width n ++ rest := by
  obtain ⟨c, cs, h, hc⟩ := exists_digit width n rest
  rw [h, Text.trimStart, List.dropWhile_cons_of_neg]
  rw [isSpace_of_isAsciiDigit hc]
  exact Bool.false_ne_true

section Digits

variable (hrest : rest.takeWhile isAsciiDigit = [])
include hrest

theorem takeWhile_digits (h : ds.all isAsciiDigit = true) :
    (ds ++ rest).takeWhile isAsciiDigit = ds := by
  rw [List.takeWhile_append_of_pos (List.all_eq_true.1 h), hrest, List.append_nil]

theorem field?_padded (hwidth : 0 < width) (hn : n < Nat.pow 10 width) (hleast : least ≤ width)
    (hmost : width ≤ most) : field? least most (padded width n ++ rest) = some (n, rest) := by
  have hlength := Text.length_padded hwidth hn
  rw [field?, takeWhile_digits hrest (Text.all_padded width n), List.take_of_length_le (by omega),
    if_neg (by omega), Text.ofDigits_padded, List.drop_left]

/-- Two digits exactly. -/
theorem field?_two (hn : n < 100) : field? 2 2 (padded 2 n ++ rest) = some (n, rest) :=
  field?_padded hrest (by decide) hn (Nat.le_refl 2) (Nat.le_refl 2)

theorem short?_padded (hn : n < 100) : short? (padded 2 n ++ rest) = some (n, rest) := by
  rw [short?, trimStart_padded, field?_padded hrest (by decide) hn (by decide) (by decide)]

theorem year?_padded (hn : n < 10000) : year? (padded 4 n ++ rest) = some ((n : Int), rest) := by
  have hfield := field?_padded hrest (by decide) hn (by decide : 1 ≤ 4) (by decide : 4 ≤ 4)
  obtain ⟨c, cs, h, hc⟩ := exists_digit 4 n rest
  rw [year?, trimStart_padded]
  split
  · rename_i hminus
    rw [h] at hminus
    cases hminus
    cases hc
  · rename_i hplus
    rw [h] at hplus
    cases hplus
    cases hc
  · rw [hfield]
    rfl

theorem nanos?_padded (hwidth : 0 < width) (hmost : width ≤ 9) (hn : n < Nat.pow 10 width) :
    nanos? (padded width n ++ rest) = some (n * Nat.pow 10 (9 - width), rest) := by
  have hlength := Text.length_padded hwidth hn
  have hempty : (padded width n).isEmpty = false :=
    List.isEmpty_eq_false_iff.2 (Text.padded_ne_nil width n)
  rw [nanos?, takeWhile_digits hrest (Text.all_padded width n), hempty,
    List.take_of_length_le (by omega), if_neg Bool.false_ne_true, Text.ofDigits_padded,
    List.drop_left, hlength]

theorem takeWhile_fractionText (n : Nat) :
    (fractionText n ++ rest).takeWhile isAsciiDigit = [] := by
  rw [fractionText]
  split
  · exact hrest
  · split
    · rfl
    · split <;> rfl

/-- A fraction of a second is read back, and none is zero. -/
theorem fraction?_fractionText (hn : n < 1000000000) (hpoint : rest.head? ≠ some '.') :
    fraction? (fractionText n ++ rest) = some (n, rest) := by
  rw [fractionText]
  split
  · rename_i hzero
    rw [hzero, List.nil_append]
    unfold fraction?
    split
    · exact absurd rfl hpoint
    · rfl
  · have hnanos {width k : Nat} (hwidth : 0 < width) (hmost : width ≤ 9)
        (hk : k < Nat.pow 10 width) (heq : k * Nat.pow 10 (9 - width) = n) :
        fraction? ('.' :: padded width k ++ rest) = some (n, rest) := by
      rw [← heq]
      exact nanos?_padded hrest hwidth hmost hk
    split
    · have hmillis : n / 1000000 < 1000 ∧ n / 1000000 * 1000000 = n := by omega
      exact hnanos (by decide) (by decide) hmillis.1 hmillis.2
    · split
      · have hmicros : n / 1000 < 1000000 ∧ n / 1000 * 1000 = n := by omega
        exact hnanos (by decide) (by decide) hmicros.1 hmicros.2
      · exact hnanos (by decide) (by decide) hn (Nat.mul_one n)

end Digits

theorem bind_of_eq_some {α β : Type} {x : Option α} {a : α} {f : α → Option β} (hx : x = some a) :
    (x >>= f) = f a := by
  rw [hx]
  rfl

theorem char?_cons (c : Char) (cs : List Char) : char? c (c :: cs) = some cs :=
  if_pos rfl

/-- No field goes beyond a separator. -/
theorem takeWhile_separator {c : Char} (cs : List Char) (hc : isAsciiDigit c = false) :
    (c :: cs).takeWhile isAsciiDigit = [] :=
  List.takeWhile_cons_of_neg (by rw [hc]; exact Bool.false_ne_true)

/-! ### Dates and times of day -/

/-- Year, month and day as JSON has them. -/
def dateText (year month day : Nat) : List Char :=
  padded 4 year ++ '-' :: (padded 2 month ++ '-' :: padded 2 day)

/-- Hours, minutes, seconds and the fraction as JSON has them. -/
def timeText (hour minute second nano : Nat) : List Char :=
  padded 2 hour ++ ':' :: (padded 2 minute ++ ':' :: (padded 2 second ++ fractionText nano))

section Parts

variable {year month day hour minute second nano : Nat}

theorem dateFields?_dateText {n : Int} (hyear : year < 10000) (hmonth : month < 100)
    (hday : day < 100) (hn : day? year month day = some n)
    (hrest : rest.takeWhile isAsciiDigit = []) :
    dateFields? (dateText year month day ++ rest) = some (n, rest) := by
  have hhyphen (cs : List Char) := takeWhile_separator (c := '-') cs rfl
  rw [dateText, dateFields?]
  simp only [List.append_assoc, List.cons_append, year?_padded, short?_padded, hhyphen, hrest,
    hyear, hmonth, hday, char?_cons, hn, Option.bind_eq_bind, Option.bind_some]
  rfl

theorem timeFields?_timeText {day : Int} {t : DateTime} (hhour : hour < 100)
    (hminute : minute < 100) (hsecond : second < 100) (hnano : nano < 1000000000)
    (ht : time? day hour minute second nano = some t) :
    timeFields? day (timeText hour minute second nano) = some t := by
  have hcolon (cs : List Char) := takeWhile_separator (c := ':') cs rfl
  have hend : [].takeWhile isAsciiDigit = [] := rfl
  have hstop := takeWhile_fractionText hend nano
  have hfraction := fraction?_fractionText hend hnano (by decide)
  rw [List.append_nil] at hstop hfraction
  rw [timeText, timeFields?]
  simp only [short?_padded, hcolon, hhour, hminute, hsecond, hstop, hfraction, char?_cons,
    Option.bind_eq_bind, Option.bind_some, List.isEmpty_nil, if_true, ht]

theorem time?_of_lt (day : Int) (hh : hour < 24) (hm : minute < 60) (hs : second < 60)
    (hn : nano < 1000000000) :
    time? day hour minute second nano =
      some ⟨day, ⟨(hour * 60 + minute) * 60 + second, by omega⟩, ⟨nano, by omega⟩⟩ := by
  have hleap : second ≠ 60 := by omega
  simp only [time?, if_neg hleap]
  exact dif_pos ⟨hh, hm, hs, by omega⟩

end Parts

namespace DateTime

/-- A date in the years 1 to 9999, not in a leap second. -/
structure Ordinary (t : DateTime) : Prop where
  one_le : 1 ≤ t.date.year
  le_9999 : t.date.year ≤ 9999
  noLeap : t.inLeapSecond = false

variable {t : DateTime}

theorem Ordinary.nano_lt (h : t.Ordinary) : t.nano.val < 1000000000 :=
  Nat.lt_of_not_le (of_decide_eq_false h.noLeap)

theorem Ordinary.natAbs_year (h : t.Ordinary) : (t.date.year.natAbs : Int) = t.date.year :=
  Int.natAbs_of_nonneg (Int.le_trans (by decide) h.one_le)

/-- The date of an ordinary day is a date of the calendar, whose numbers have their digits. -/
theorem Ordinary.date_spec (h : t.Ordinary) :
    t.date.year.natAbs < 10000 ∧ t.date.month < 100 ∧ t.date.day < 100 ∧
      day? t.date.year.natAbs t.date.month t.date.day = some t.day := by
  have hle := h.le_9999
  have hyear := h.natAbs_year
  have hdate : dayOf? t.date.year t.date.month t.date.day = some t.day := dayOf?_date t.day
  obtain ⟨hmonth, hday⟩ := bounds_of_dayOf? hdate
  refine ⟨by omega, by omega, by omega, ?_⟩
  rw [hyear, day?, if_pos (by omega), hdate]

theorem Ordinary.time_spec (h : t.Ordinary) :
    t.hour < 100 ∧ t.minute < 100 ∧ t.secondOfMinute < 100 ∧
      time? t.day t.hour t.minute t.secondOfMinute t.nano.val = some t := by
  have hlt := t.second.isLt
  have hhour : t.hour < 24 := by rw [hour]; omega
  have hminute : t.minute < 60 := by rw [minute]; omega
  have hsecond : t.secondOfMinute < 60 := by rw [secondOfMinute]; omega
  have heq : (t.hour * 60 + t.minute) * 60 + t.secondOfMinute = t.second.val := by
    rw [hour, minute, secondOfMinute]
    omega
  refine ⟨by omega, by omega, by omega, ?_⟩
  rw [time?_of_lt t.day hhour hminute hsecond h.nano_lt]
  simp only [heq]

theorem isoDate_eq (h : t.Ordinary) :
    t.isoDate = dateText t.date.year.natAbs t.date.month t.date.day := by
  have hle := h.one_le
  have hyear : yearText t.date.year = padded 4 t.date.year.natAbs :=
    if_pos ⟨by omega, h.le_9999⟩
  have hiso : t.isoDate = yearText t.date.year ++ '-' :: padded 2 t.date.month ++
      '-' :: padded 2 t.date.day := rfl
  rw [hiso, hyear, dateText, List.append_assoc, List.cons_append]

theorem clockText_append_fractionText (h : t.Ordinary) : t.clockText ++ t.fractionText =
    timeText t.hour t.minute t.secondOfMinute t.nano.val := by
  rw [clockText, fractionText, nanosPerSecond, Nat.div_eq_of_lt h.nano_lt, Nat.add_zero,
    Nat.mod_eq_of_lt h.nano_lt, timeText]
  simp only [List.append_assoc, List.cons_append]

theorem json_eq (h : t.Ordinary) :
    t.json = dateText t.date.year.natAbs t.date.month t.date.day ++
      'T' :: timeText t.hour t.minute t.secondOfMinute t.nano.val := by
  rw [json, List.append_assoc, List.cons_append, clockText_append_fractionText h, isoDate_eq h]

/-- A date is read back from its JSON form. -/
theorem parse?_json (h : t.Ordinary) : parse? t.json = some t := by
  obtain ⟨hyear, hmonth, hday, hdate⟩ := h.date_spec
  obtain ⟨hhour, hminute, hsecond, htime⟩ := h.time_spec
  rw [json_eq h, parse?,
    dateFields?_dateText hyear hmonth hday hdate (takeWhile_separator _ rfl),
    Option.bind_eq_bind, Option.bind_some]
  exact timeFields?_timeText hhour hminute hsecond h.nano_lt htime

end DateTime

/-! ### Dates with an offset -/

/-- Reads the hours and minutes after the sign. -/
def offsetMagnitude? (cs : List Char) : Option (Int × List Char) := do
  let (hours, cs) ← field? 2 2 cs
  let cs ← char? ':' cs
  let (minutes, cs) ← field? 2 2 cs
  if hours < 24 ∧ minutes < 60 then return (hours * 3600 + minutes * 60, cs) else none

theorem offset?_plus (cs : List Char) : offset? ('+' :: cs) = offsetMagnitude? cs :=
  rfl

theorem offset?_minus (cs : List Char) :
    offset? ('-' :: cs) = (offsetMagnitude? cs).map fun (n, cs) => (-n, cs) :=
  rfl

theorem offsetMagnitude?_padded {hours minutes : Nat} (hh : hours < 24) (hm : minutes < 60) :
    offsetMagnitude? (padded 2 hours ++ ':' :: padded 2 minutes) =
      some ((hours * 3600 + minutes * 60 : Int), []) := by
  have hhours := field?_two (takeWhile_separator (padded 2 minutes) (c := ':') rfl)
    (Nat.lt_trans hh (by decide))
  have hend : [].takeWhile isAsciiDigit = [] := rfl
  have hminutes := field?_two hend (Nat.lt_trans hm (by decide))
  rw [List.append_nil] at hminutes
  simp only [offsetMagnitude?, hhours, char?_cons, hminutes, Option.bind_eq_bind, Option.bind_some]
  exact if_pos ⟨hh, hm⟩

/-- An offset of whole minutes is read back. -/
theorem offset?_offsetText {seconds : Int} (hday : seconds.natAbs < 86400)
    (hminutes : seconds % 60 = 0) : offset? (offsetText seconds) = some (seconds, []) := by
  have hhours : seconds.natAbs / 3600 < 24 := by omega
  have hrest : seconds.natAbs / 60 % 60 < 60 := by omega
  have hmagnitude := offsetMagnitude?_padded hhours hrest
  have hsum : ((seconds.natAbs / 3600 : Nat) * 3600 + (seconds.natAbs / 60 % 60 : Nat) * 60 : Int) =
      seconds.natAbs := by omega
  rw [hsum] at hmagnitude
  by_cases hneg : seconds < 0
  · rw [offsetText, if_pos hneg, List.cons_append, offset?_minus, hmagnitude, Option.map_some,
      Int.ofNat_natAbs_of_nonpos (Int.le_of_lt hneg)]
    dsimp only
    rw [Int.neg_neg]
  · rw [offsetText, if_neg hneg, List.cons_append, offset?_plus, hmagnitude,
      Int.natAbs_of_nonneg (Int.le_of_not_gt hneg)]

theorem takeWhile_offsetText (seconds : Int) :
    (offsetText seconds).takeWhile isAsciiDigit = [] := by
  rw [offsetText]
  split <;> rfl

theorem head?_offsetText (seconds : Int) : (offsetText seconds).head? ≠ some '.' := by
  rw [offsetText]
  split
  · exact (by decide : some '-' ≠ some '.')
  · exact (by decide : some '+' ≠ some '.')

namespace OffsetDateTime

/-- A clock on an ordinary date, ahead or behind by whole minutes and by less than a day. -/
structure Ordinary (t : OffsetDateTime) : Prop where
  clock : t.clock.Ordinary
  offset_lt : t.offset.natAbs < 86400
  wholeMinutes : t.offset % 60 = 0

theorem parse?_parts {year month day hour minute second nano : Nat} {n offset : Int}
    {clock : DateTime} (hyear : year < 10000) (hmonth : month < 100) (hday : day < 100)
    (hhour : hour < 100) (hminute : minute < 100) (hsecond : second < 100)
    (hnano : nano < 1000000000) (hn : day? year month day = some n)
    (hclock : time? n hour minute second nano = some clock)
    (hoffset : offset? (offsetText offset) = some (offset, [])) :
    parse? (dateText year month day ++ 'T' :: timeText hour minute second nano ++
      offsetText offset) = some ⟨clock, offset⟩ := by
  have hyear' (cs : List Char) : field? 4 4 (padded 4 year ++ '-' :: cs) = some (year, '-' :: cs) :=
    field?_padded (takeWhile_separator cs rfl) (by decide) hyear (Nat.le_refl 4) (Nat.le_refl 4)
  have hmonth' (cs : List Char) := field?_two (takeWhile_separator (c := '-') cs rfl) hmonth
  have hday' (cs : List Char) := field?_two (takeWhile_separator (c := 'T') cs rfl) hday
  have hhour' (cs : List Char) := field?_two (takeWhile_separator (c := ':') cs rfl) hhour
  have hminute' (cs : List Char) := field?_two (takeWhile_separator (c := ':') cs rfl) hminute
  have hsecond' := field?_two (takeWhile_fractionText (takeWhile_offsetText offset) nano) hsecond
  have hfraction := fraction?_fractionText (takeWhile_offsetText offset) hnano
    (head?_offsetText offset)
  have htext : dateText year month day ++ 'T' :: timeText hour minute second nano ++
      offsetText offset = padded 4 year ++ '-' :: (padded 2 month ++ '-' :: (padded 2 day ++ 'T' ::
        (padded 2 hour ++ ':' :: (padded 2 minute ++ ':' :: (padded 2 second ++
          (fractionText nano ++ offsetText offset)))))) := by
    simp only [dateText, timeText, List.append_assoc, List.cons_append]
  -- one step for each field and each separator, in the order of the text
  rw [htext, parse?]
  refine (bind_of_eq_some (hyear' _)).trans ?_
  refine (bind_of_eq_some (char?_cons _ _)).trans ?_
  refine (bind_of_eq_some (hmonth' _)).trans ?_
  refine (bind_of_eq_some (char?_cons _ _)).trans ?_
  refine (bind_of_eq_some (hday' _)).trans ?_
  refine (if_pos (Or.inl rfl)).trans ?_
  refine (bind_of_eq_some rfl).trans ?_
  refine (bind_of_eq_some (hhour' _)).trans ?_
  refine (bind_of_eq_some (char?_cons _ _)).trans ?_
  refine (bind_of_eq_some (hminute' _)).trans ?_
  refine (bind_of_eq_some (char?_cons _ _)).trans ?_
  refine (bind_of_eq_some hsecond').trans ?_
  refine (bind_of_eq_some hfraction).trans ?_
  refine (bind_of_eq_some hoffset).trans ?_
  refine (if_pos rfl).trans ?_
  refine (bind_of_eq_some hn).trans ?_
  exact bind_of_eq_some hclock

/-- A date with an offset is read back from its JSON form. -/
theorem parse?_json {t : OffsetDateTime} (h : t.Ordinary) : parse? t.json = some t := by
  obtain ⟨hyear, hmonth, hday, hdate⟩ := h.clock.date_spec
  obtain ⟨hhour, hminute, hsecond, htime⟩ := h.clock.time_spec
  rw [json, DateTime.json_eq h.clock]
  exact parse?_parts hyear hmonth hday hhour hminute hsecond h.clock.nano_lt hdate htime
    (offset?_offsetText h.offset_lt h.wholeMinutes)

end OffsetDateTime

end Elementwise.Time
