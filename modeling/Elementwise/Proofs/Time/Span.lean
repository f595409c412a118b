import Elementwise.Proofs.Text.Numeral
import Elementwise.Time.Reading
import Elementwise.Time.Text

/-!
Spans read back from their text, except the least one: its magnitude is one more than the largest
tick count, and reading puts the sign on last.
-/

namespace Elementwise.Time

open Number (Word WordKind)
open Text (padded digits ofDigits isAsciiDigit)

/-! ### 64-bit integers -/

theorem wrap64_of_mem {n : Int} (hmin : -9223372036854775808 ≤ n)
    (hmax : n ≤ 9223372036854775807) : wrap64 n = n :=
  congrArg Word.val (Word.wrap_val (k := .int64) ⟨n, hmin, hmax⟩)

theorem ofInt?_of_mem {n : Int} (hmin : -9223372036854775808 ≤ n)
    (hmax : n ≤ 9223372036854775807) : Word.ofInt? .int64 n = some ⟨n, hmin, hmax⟩ :=
  dif_pos ⟨hmin, hmax⟩

theorem int64?_of_integer? {cs : List Char} {n : Int} (h : Text.integer? cs = some n)
    (hmin : -9223372036854775808 ≤ n) (hmax : n ≤ 9223372036854775807) : int64? cs = some n := by
  rw [int64?, h, Option.bind_some, ofInt?_of_mem hmin hmax]
  rfl

/-! ### The time of day -/

theorem notMem_padded {c : Char} (width n : Nat) (hc : isAsciiDigit c = false) :
    c ∉ padded width n := by
  intro h
  rw [Text.isAsciiDigit_of_mem_padded h] at hc
  cases hc

theorem notMem_digits {c : Char} (n : Nat) (hc : isAsciiDigit c = false) : c ∉ digits n := by
  intro h
  rw [Text.isAsciiDigit_of_mem_digits h] at hc
  cases hc

/-- `hh:mm:ss`. -/
def clockText (hours minutes seconds : Nat) : List Char :=
  padded 2 hours ++ ':' :: (padded 2 minutes ++ ':' :: padded 2 seconds)

theorem notMem_clockText {c : Char} (hours minutes seconds : Nat) (hdigit : isAsciiDigit c = false)
    (hc : c ≠ ':') : c ∉ clockText hours minutes seconds := by
  simp [clockText, notMem_padded, hdigit, hc]

theorem splitOn_clockText (hours minutes seconds : Nat) :
    Text.splitOn ':' (clockText hours minutes seconds) =
      [padded 2 hours, padded 2 minutes, padded 2 seconds] := by
  have hcolon (n : Nat) : ':' ∉ padded 2 n := notMem_padded 2 n rfl
  rw [clockText, Text.splitOn_append_cons (hcolon _), Text.splitOn_append_cons (hcolon _),
    Text.splitOn_of_notMem (hcolon _)]

/-- The seven digits of a fraction of a second in ticks; none for zero. -/
def fractionDigits (ticks : Nat) : List Char :=
  if 0 < ticks then padded 7 ticks else []

theorem fractionDigits_spec {ticks : Nat} (h : ticks < 10000000) :
    (fractionDigits ticks).length ≤ 7 ∧ (fractionDigits ticks).all isAsciiDigit = true ∧
      ofDigits (fractionDigits ticks) * Nat.pow 10 (7 - (fractionDigits ticks).length) = ticks := by
  rw [fractionDigits]
  split
  · have hlength : (padded 7 ticks).length = 7 := Text.length_padded (by decide) h
    rw [hlength, Text.ofDigits_padded]
    exact ⟨Nat.le_refl 7, Text.all_padded 7 ticks, Nat.mul_one ticks⟩
  · have hzero : ticks = 0 := by omega
    rw [hzero]
    exact ⟨Nat.zero_le 7, rfl, rfl⟩

theorem clockTicks?_clockText {hours minutes seconds ticks : Nat} (hh : hours < 24)
    (hm : minutes < 60) (hs : seconds < 60) (ht : ticks < 10000000) :
    clockTicks? (clockText hours minutes seconds) (fractionDigits ticks) =
      some ((((hours * 60 + minutes) * 60 + seconds) * 10000000 + ticks : Nat) : Int) := by
  obtain ⟨hlength, hdigits, hvalue⟩ := fractionDigits_spec ht
  have hword {n : Nat} (hn : n < 60) : int64? (padded 2 n) = some (n : Int) :=
    int64?_of_integer? (Text.integer?_padded 2 n) (by omega) (by omega)
  have hrange : ((hours : Int) < 24) ∧ ((minutes : Int) < 60) ∧ ((seconds : Int) < 60) ∧
      (fractionDigits ticks).length ≤ 7 ∧ (fractionDigits ticks).all isAsciiDigit = true :=
    ⟨by omega, by omega, by omega, hlength, hdigits⟩
  -- every intermediate result is a tick count of less than a day
  have hwrap {n : Int} (h : 0 ≤ n) (h' : n < 864000000000) : wrap64 n = n :=
    wrap64_of_mem (by omega) (by omega)
  rw [clockTicks?, splitOn_clockText, List.map_cons, List.map_cons, List.map_cons, List.map_nil,
    hword (by omega), hword hm, hword hs]
  dsimp only
  rw [if_pos hrange, ticksPerSecond, hwrap (n := hours * 60) (by omega) (by omega),
    hwrap (n := hours * 60 + minutes) (by omega) (by omega),
    hwrap (n := (hours * 60 + minutes) * 60) (by omega) (by omega),
    hwrap (n := (hours * 60 + minutes) * 60 + seconds) (by omega) (by omega),
    hwrap (n := ((hours * 60 + minutes) * 60 + seconds) * 10000000) (by omega) (by omega)]
  rw [hvalue, hwrap (by omega) (by omega)]
  simp

/-! ### Spans -/

/-- The fraction with the point before it. -/
def pointed (ticks : Nat) : List Char :=
  if 0 < ticks then '.' :: padded 7 ticks else []

theorem splitOnce?_pointed {front : List Char} (ticks : Nat) (h : '.' ∉ front) :
    (Text.splitOnce? '.' (front ++ pointed ticks)).getD (front ++ pointed ticks, []) =
      (front, fractionDigits ticks) := by
  rw [pointed, fractionDigits]
  split
  · rw [Text.splitOnce?_append_cons h]
    rfl
  · rw [List.append_nil, Text.splitOnce?_of_notMem h]
    rfl

/-- The text of a span without its sign. -/
def magnitudeText (n : Nat) : List Char :=
  (if 0 < n / 864000000000 then digits (n / 864000000000) ++ ['.'] else []) ++
    (clockText (n % 864000000000 / 36000000000) (n % 36000000000 / 600000000)
      (n % 600000000 / 10000000) ++ pointed (n % 10000000))

theorem spanText_eq (ticks : Int) :
    spanText ticks = (if ticks < 0 then ['-'] else []) ++ magnitudeText ticks.natAbs := by
  simp only [spanText, magnitudeText, clockText, pointed, List.append_assoc, List.cons_append]

theorem notMem_magnitudeText (n : Nat) : '-' ∉ magnitudeText n := by
  have hclock := notMem_clockText (c := '-') (n % 864000000000 / 36000000000)
    (n % 36000000000 / 600000000) (n % 600000000 / 10000000) rfl (by decide)
  have hpointed : '-' ∉ pointed (n % 10000000) := by
    rw [pointed]
    split
    · simp [notMem_padded 7 _ (c := '-') rfl]
    · exact List.not_mem_nil
  have hdays : '-' ∉ digits (n / 864000000000) := notMem_digits _ rfl
  rw [magnitudeText]
  split <;> simp [hclock, hpointed, hdays]

/-- The ticks of a span without its sign. -/
def magnitude? (body : List Char) : Option Int :=
  match Text.splitOnce? '.' body with
  | none => clockTicks? body []
  | some (first, rest) =>
    if first.contains ':' then clockTicks? first rest
    else do
      let (clock, fraction) := (Text.splitOnce? '.' rest).getD (rest, [])
      let days ← int64? first
      let ticks ← clockTicks? clock fraction
      let days ← Word.ofInt? .int64 (days * ticksPerDay)
      let total ← Word.ofInt? .int64 (days.val + ticks)
      return total.val

theorem spanTicks?_minus (body : List Char) :
    spanTicks? ('-' :: body) = (magnitude? body).map fun ticks => wrap64 (-ticks) :=
  rfl

theorem spanTicks?_of_notMem {body : List Char} (h : '-' ∉ body) :
    spanTicks? body = magnitude? body := by
  rw [spanTicks?]
  · exact Option.map_id'
  · rintro rest rfl
    exact h (List.mem_cons_self ..)

section Magnitude

variable {days hours minutes seconds ticks : Nat}

theorem magnitude?_clockText (hh : hours < 24) (hm : minutes < 60) (hs : seconds < 60)
    (ht : ticks < 10000000) :
    magnitude? (clockText hours minutes seconds ++ pointed ticks) =
      some ((((hours * 60 + minutes) * 60 + seconds) * 10000000 + ticks : Nat) : Int) := by
  have hpoint : '.' ∉ clockText hours minutes seconds := notMem_clockText _ _ _ rfl (by decide)
  have hcolon : (clockText hours minutes seconds).contains ':' = true := by simp [clockText]
  rw [← clockTicks?_clockText hh hm hs ht, magnitude?, pointed, fractionDigits]
  by_cases hticks : 0 < ticks
  · rw [if_pos hticks, if_pos hticks, Text.splitOnce?_append_cons hpoint]
    exact if_pos hcolon
  · rw [if_neg hticks, if_neg hticks, List.append_nil, Text.splitOnce?_of_notMem hpoint]

theorem magnitude?_days (hh : hours < 24) (hm : minutes < 60) (hs : seconds < 60)
    (ht : ticks < 10000000) (hd : days ≤ 10675199) :
    magnitude? (digits days ++ '.' :: (clockText hours minutes seconds ++ pointed ticks)) =
      (Word.ofInt? .int64 (days * 864000000000 +
        (((hours * 60 + minutes) * 60 + seconds) * 10000000 + ticks : Nat))).map (·.val) := by
  have hcolon : (digits days).contains ':' = false := by simp [notMem_digits days (c := ':') rfl]
  have hpoint : '.' ∉ clockText hours minutes seconds := notMem_clockText _ _ _ rfl (by decide)
  have hdays : int64? (digits days) = some (days : Int) :=
    int64?_of_integer? (Text.integer?_digits days) (by omega) (by omega)
  rw [magnitude?, Text.splitOnce?_append_cons (notMem_digits days rfl)]
  dsimp only
  rw [hcolon, if_neg Bool.false_ne_true, splitOnce?_pointed _ hpoint]
  dsimp only [ticksPerDay]
  rw [hdays, clockTicks?_clockText hh hm hs ht, Option.bind_eq_bind, Option.bind_some,
    Option.bind_eq_bind, Option.bind_some,
    ofInt?_of_mem (n := (days : Int) * 864000000000) (by omega) (by omega), Option.bind_some]
  show (Word.ofInt? .int64 ((days : Int) * 864000000000 + _)).bind _ = _
  cases Word.ofInt? .int64 _ <;> rfl

end Magnitude

/-- The magnitude of a span is read back if it is a tick count itself. -/
theorem magnitude?_magnitudeText {n : Nat} (hn : n ≤ 9223372036854775808) :
    magnitude? (magnitudeText n) = (Word.ofInt? .int64 n).map (·.val) := by
  have hh : n % 864000000000 / 36000000000 < 24 := by omega
  have hm : n % 36000000000 / 600000000 < 60 := by omega
  have hs : n % 600000000 / 10000000 < 60 := by omega
  have ht : n % 10000000 < 10000000 := by omega
  rw [magnitudeText]
  by_cases hd : 0 < n / 864000000000
  · rw [if_pos hd, List.append_assoc, List.singleton_append,
      magnitude?_days hh hm hs ht (by omega)]
    congr 2
    omega
  · rw [if_neg hd, List.nil_append, magnitude?_clockText hh hm hs ht,
      ofInt?_of_mem (by omega) (by omega)]
    congr 1
    show ((_ : Nat) : Int) = n
    omega

/-- A tick count is read back from its text unless it is the least. -/
theorem spanTicks?_spanText (t : Word .int64) :
    spanTicks? (spanText t.val) = if t.val = WordKind.int64.min then none else some t.val := by
  have hmin : -9223372036854775808 ≤ t.val := t.min_le
  have hmax : t.val ≤ 9223372036854775807 := t.le_max
  rw [spanText_eq, show WordKind.int64.min = -9223372036854775808 from rfl]
  by_cases hneg : t.val < 0
  · rw [if_pos hneg, List.singleton_append, spanTicks?_minus, magnitude?_magnitudeText (by omega)]
    by_cases hleast : t.val = -9223372036854775808
    · rw [if_pos hleast, hleast]
      rfl
    · rw [if_neg hleast, ofInt?_of_mem (by omega) (by omega)]
      show some (wrap64 (-(t.val.natAbs : Int))) = _
      rw [wrap64_of_mem (by omega) (by omega)]
      congr 1
      omega
  · rw [if_neg hneg, if_neg (by omega), List.nil_append,
      spanTicks?_of_notMem (notMem_magnitudeText _), magnitude?_magnitudeText (by omega),
      ofInt?_of_mem (by omega) (by omega)]
    show some (t.val.natAbs : Int) = some t.val
    congr 1
    omega

end Elementwise.Time
