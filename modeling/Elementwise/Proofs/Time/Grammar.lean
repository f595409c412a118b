import Elementwise.Proofs.Time.Span

/-!
The grammar `[-][d.]h:m:s[.f]` of spans, and how far reading keeps to it.  The fields are read as
integers, so a sign in front of any of them is taken for part of the number, and the limits on them
are limits from above only; a point at the end is taken for a fraction without digits.  A text that
has no such sign and no such point is read exactly if it has the form, and then no number that comes
up on the way is out of the 64-bit range.
-/

namespace Elementwise.Time

open Number (Word WordKind)
open Text (ofDigits isAsciiDigit)

/-! ### The grammar -/

/-- A run of decimal digits. -/
structure IsNumeral (ds : List Char) : Prop where
  ne_nil : ds ≠ []
  digits : ds.all isAsciiDigit = true

/-- The fields of the time of day. -/
structure ClockParts where
  hours : List Char
  minutes : List Char
  seconds : List Char

namespace ClockParts

/-- `h:m:s`. -/
def text (c : ClockParts) : List Char :=
  c.hours ++ ':' :: (c.minutes ++ ':' :: c.seconds)

structure Valid (c : ClockParts) : Prop where
  hours : IsNumeral c.hours
  minutes : IsNumeral c.minutes
  seconds : IsNumeral c.seconds
  hours_lt : ofDigits c.hours < 24
  minutes_lt : ofDigits c.minutes < 60
  seconds_lt : ofDigits c.seconds < 60

/-- The seconds since midnight. -/
def count (c : ClockParts) : Nat :=
  (ofDigits c.hours * 60 + ofDigits c.minutes) * 60 + ofDigits c.seconds

theorem Valid.count_lt {c : ClockParts} (hc : c.Valid) : c.count < 86400 := by
  have hhours := hc.hours_lt
  have hminutes := hc.minutes_lt
  have hseconds := hc.seconds_lt
  unfold count
  omega

end ClockParts

/-- The ticks of the digits after the point. -/
def fractionTicks (ds : List Char) : Nat :=
  ofDigits ds * Nat.pow 10 (7 - ds.length)

/-- What the text of a span is made of: its fields, and whether there is a sign. -/
structure SpanParts where
  negative : Bool
  days? : Option (List Char)
  clock : ClockParts
  fraction? : Option (List Char)

namespace SpanParts

/-- `[d.]h:m:s[.f]`. -/
def body (p : SpanParts) : List Char :=
  p.days?.elim [] (· ++ ['.']) ++ (p.clock.text ++ p.fraction?.elim [] ('.' :: ·))

/-- `[-][d.]h:m:s[.f]`. -/
def text (p : SpanParts) : List Char :=
  (if p.negative then ['-'] else []) ++ p.body

/-- The fields are numbers within their limits, and the fraction has one to seven digits. -/
structure Valid (p : SpanParts) : Prop where
  days : ∀ d ∈ p.days?, IsNumeral d
  clock : p.clock.Valid
  fraction : ∀ f ∈ p.fraction?, IsNumeral f ∧ f.length ≤ 7

def magnitude (p : SpanParts) : Nat :=
  p.days?.elim 0 ofDigits * 864000000000 +
    (p.clock.count * 10000000 + p.fraction?.elim 0 fractionTicks)

def ticks (p : SpanParts) : Int :=
  if p.negative then -(p.magnitude : Int) else p.magnitude

end SpanParts

/-- The text has the form of a span, and its ticks are so many. -/
def Denotes (cs : List Char) (ticks : Int) : Prop :=
  ∃ p : SpanParts, p.Valid ∧ p.text = cs ∧ p.ticks = ticks

/-- The text has no sign but a minus in front, and no point at the end. -/
structure IsTidy (cs : List Char) : Prop where
  plus : '+' ∉ cs
  minus : '-' ∉ cs.tail
  point : cs.getLast? ≠ some '.'

/-! ### Numbers on the way -/

/-- Numbers of the 64-bit range are left as they are; whatever becomes of others. -/
def KeepsInRange (settle : Int → Option Int) : Prop :=
  ∀ n, WordKind.int64.min ≤ n → n ≤ WordKind.int64.max → settle n = some n

/-- The ticks of `h:m:s` and a fraction, where `settle` is applied to every number that comes up. -/
def clockTicksBy (settle : Int → Option Int) (clock fraction : List Char) : Option Int :=
  match (Text.splitOn ':' clock).map int64? with
  | [some h, some m, some s] =>
    if h < 24 ∧ m < 60 ∧ s < 60 ∧ fraction.length ≤ 7 ∧ fraction.all isAsciiDigit then do
      let minutes ← settle (h * 60)
      let minutes ← settle (minutes + m)
      let seconds ← settle (minutes * 60)
      let seconds ← settle (seconds + s)
      let ticks ← settle (seconds * ticksPerSecond)
      settle (ticks + fractionTicks fraction)
    else none
  | _ => none

/-- The ticks of a text without its sign, where `settle` is applied to the numbers of the time of
day; the days are checked. -/
def magnitudeBy (settle : Int → Option Int) (body : List Char) : Option Int :=
  match Text.splitOnce? '.' body with
  | none => clockTicksBy settle body []
  | some (first, rest) =>
    if first.contains ':' then clockTicksBy settle first rest
    else do
      let (clock, fraction) := (Text.splitOnce? '.' rest).getD (rest, [])
      let days ← int64? first
      let ticks ← clockTicksBy settle clock fraction
      let days ← Word.ofInt? .int64 (days * ticksPerDay)
      let total ← Word.ofInt? .int64 (days.val + ticks)
      return total.val

/-- The ticks of a text, where `settle` is applied to the numbers that are not checked. -/
def spanTicksBy (settle : Int → Option Int) : List Char → Option Int
  | '-' :: body => (magnitudeBy settle body).bind fun ticks => settle (-ticks)
  | body => magnitudeBy settle body

theorem magnitudeBy_wrap64 : magnitudeBy (fun n => some (wrap64 n)) = magnitude? := by
  have hclock : clockTicksBy (fun n => some (wrap64 n)) = clockTicks? := rfl
  unfold magnitudeBy
  rw [hclock]
  rfl

theorem spanTicksBy_wrap64 (cs : List Char) :
    spanTicksBy (fun n => some (wrap64 n)) cs = spanTicks? cs := by
  unfold spanTicksBy
  rw [magnitudeBy_wrap64]
  split
  · rw [spanTicks?_minus, Option.map_eq_bind]
    rfl
  · rename_i body hbody
    rw [spanTicks?]
    · exact Option.map_id'.symm
    · exact hbody

/-! ### Fields -/

section Reading

variable {settle : Int → Option Int} {clock fraction body : List Char} {n : Int}

theorem isNumeral_of_natural? {ds : List Char} {k : Nat} (h : Text.natural? ds = some k) :
    IsNumeral ds ∧ k = ofDigits ds := by
  unfold Text.natural? at h
  split at h
  · cases h
  · rename_i hds
    rw [Bool.or_eq_true, not_or, List.isEmpty_iff, Bool.not_eq_true', Bool.not_eq_false] at hds
    exact ⟨⟨hds.1, hds.2⟩, (Option.some.inj h).symm⟩

theorem IsNumeral.notMem {ds : List Char} (h : IsNumeral ds) {c : Char}
    (hc : isAsciiDigit c = false) : c ∉ ds := by
  intro hmem
  rw [List.all_eq_true.1 h.digits c hmem] at hc
  cases hc

/-- Without a sign, what is read as an integer is a run of digits. -/
theorem int64?_eq_some_iff {cs : List Char} (hplus : '+' ∉ cs) (hminus : '-' ∉ cs) :
    int64? cs = some n ↔ IsNumeral cs ∧ n = ofDigits cs ∧ n ≤ WordKind.int64.max := by
  have hmin : WordKind.int64.min ≤ 0 := by decide
  constructor
  · intro h
    obtain ⟨w, hw, rfl⟩ := Option.map_eq_some_iff.1 h
    obtain ⟨k, hk, hw⟩ := Option.bind_eq_some_iff.1 hw
    obtain rfl := Word.ofInt?_eq_some.1 hw
    unfold Text.integer? at hk
    split at hk
    · exact absurd (List.mem_cons_self ..) hminus
    · exact absurd (List.mem_cons_self ..) hplus
    · obtain ⟨k, hk, heq⟩ := Option.map_eq_some_iff.1 hk
      obtain ⟨hcs, rfl⟩ := isNumeral_of_natural? hk
      exact ⟨hcs, heq.symm, w.le_max⟩
  · rintro ⟨hcs, rfl, hmax⟩
    exact int64?_of_integer? (Text.integer?_of_all hcs.ne_nil hcs.digits) (by omega) hmax

/-- Three fields, and the colons between them. -/
theorem splitOn_eq_three {sep : Char} {cs first second third : List Char} :
    Text.splitOn sep cs = [first, second, third] ↔
      cs = first ++ sep :: (second ++ sep :: third) ∧ sep ∉ first ∧ sep ∉ second ∧ sep ∉ third := by
  constructor
  · intro h
    obtain ⟨hfirst, ⟨hnil, -⟩ | ⟨rest, rfl, hrest⟩⟩ := Text.splitOn_eq_cons h
    · cases hnil
    · obtain ⟨hsecond, ⟨hnil, -⟩ | ⟨last, rfl, hlast⟩⟩ := Text.splitOn_eq_cons hrest
      · cases hnil
      · obtain ⟨hthird, ⟨-, rfl⟩ | ⟨more, rfl, hmore⟩⟩ := Text.splitOn_eq_cons hlast
        · exact ⟨rfl, hfirst, hsecond, hthird⟩
        · exact absurd hmore (Text.splitOn_ne_nil _ _)
  · rintro ⟨rfl, hfirst, hsecond, hthird⟩
    rw [Text.splitOn_append_cons hfirst, Text.splitOn_append_cons hsecond,
      Text.splitOn_of_notMem hthird]

theorem fractionTicks_lt (hlength : fraction.length ≤ 7)
    (hdigits : fraction.all isAsciiDigit = true) : fractionTicks fraction < 10000000 := by
  have hpow : Nat.pow 10 fraction.length * Nat.pow 10 (7 - fraction.length) = 10000000 := by
    rw [Nat.pow_eq, Nat.pow_eq, ← Nat.pow_add, Nat.add_sub_cancel' hlength]
  calc fractionTicks fraction
      < Nat.pow 10 fraction.length * Nat.pow 10 (7 - fraction.length) :=
        Nat.mul_lt_mul_of_pos_right (Text.ofDigits_lt hdigits) (Nat.pow_pos (by decide))
    _ = 10000000 := hpow

/-! ### The time of day -/

/-- Of fields within their limits the ticks are what they should be, with no number out of range on
the way. -/
theorem clockTicksBy_text (hsettle : KeepsInRange settle) {c : ClockParts} (hc : c.Valid)
    (hlength : fraction.length ≤ 7) (hdigits : fraction.all isAsciiDigit = true) :
    clockTicksBy settle c.text fraction =
      some ((c.count * 10000000 + fractionTicks fraction : Nat) : Int) := by
  obtain ⟨hhours, hminutes, hseconds, hh, hm, hs⟩ := hc
  have hfraction := fractionTicks_lt hlength hdigits
  have hsplit : Text.splitOn ':' c.text = [c.hours, c.minutes, c.seconds] :=
    splitOn_eq_three.2 ⟨rfl, hhours.notMem rfl, hminutes.notMem rfl, hseconds.notMem rfl⟩
  have hread {ds : List Char} (hds : IsNumeral ds) (hlt : ofDigits ds < 60) :
      int64? ds = some (ofDigits ds : Int) :=
    (int64?_eq_some_iff (hds.notMem rfl) (hds.notMem rfl)).2
      ⟨hds, rfl, Int.le_trans (Int.ofNat_le.2 (Nat.le_of_lt hlt)) (by decide)⟩
  have hkeep {n : Int} (hnonneg : 0 ≤ n) (hlt : n < 864000000000) : settle n = some n :=
    hsettle n (Int.le_trans (by decide) hnonneg) (Int.le_trans (Int.le_of_lt hlt) (by decide))
  have hlimits : ((ofDigits c.hours : Int) < 24) ∧ ((ofDigits c.minutes : Int) < 60) ∧
      ((ofDigits c.seconds : Int) < 60) ∧ fraction.length ≤ 7 ∧
      fraction.all isAsciiDigit = true :=
    ⟨by omega, by omega, by omega, hlength, hdigits⟩
  rw [clockTicksBy, hsplit, List.map_cons, List.map_cons, List.map_cons, List.map_nil,
    hread hhours (by omega), hread hminutes hm, hread hseconds hs]
  dsimp only [ticksPerSecond]
  rw [if_pos hlimits]
  simp (disch := omega) only [hkeep, Option.bind_eq_bind, Option.bind_some]
  rw [ClockParts.count]
  congr 1

/-- Without signs, only such fields have ticks. -/
theorem of_clockTicksBy (hplus : '+' ∉ clock) (hminus : '-' ∉ clock)
    (h : clockTicksBy settle clock fraction = some n) :
    ∃ c : ClockParts, c.Valid ∧ c.text = clock ∧ fraction.length ≤ 7 ∧
      fraction.all isAsciiDigit = true := by
  unfold clockTicksBy at h
  split at h
  · rename_i hours minutes seconds hfields
    split at h
    · rename_i hlimits
      obtain ⟨hh, hm, hs, hlength, hdigits⟩ := hlimits
      obtain ⟨first, others, hsplit, hhours, hothers⟩ := List.map_eq_cons_iff.1 hfields
      obtain ⟨second, others, rfl, hminutes, hothers⟩ := List.map_eq_cons_iff.1 hothers
      obtain ⟨third, others, rfl, hseconds, hothers⟩ := List.map_eq_cons_iff.1 hothers
      obtain rfl := List.map_eq_nil_iff.1 hothers
      obtain ⟨rfl, -⟩ := splitOn_eq_three.1 hsplit
      simp only [List.mem_append, List.mem_cons, not_or] at hplus hminus
      obtain ⟨hfirst, rfl, -⟩ := (int64?_eq_some_iff hplus.1 hminus.1).1 hhours
      obtain ⟨hsecond, rfl, -⟩ := (int64?_eq_some_iff hplus.2.2.1 hminus.2.2.1).1 hminutes
      obtain ⟨hthird, rfl, -⟩ := (int64?_eq_some_iff hplus.2.2.2.2 hminus.2.2.2.2).1 hseconds
      have hvalid : ClockParts.Valid ⟨first, second, third⟩ :=
        ⟨hfirst, hsecond, hthird, Int.ofNat_lt.1 hh, Int.ofNat_lt.1 hm, Int.ofNat_lt.1 hs⟩
      exact ⟨_, hvalid, rfl, hlength, hdigits⟩
    · cases h
  · cases h

/-! ### Magnitudes -/

theorem IsNumeral.getLast?_append {ds : List Char} (h : IsNumeral ds) (front : List Char) :
    (front ++ ds).getLast? ≠ some '.' := by
  obtain ⟨c, hc⟩ := Option.ne_none_iff_exists'.1 (mt List.getLast?_eq_none_iff.1 h.ne_nil)
  rw [List.getLast?_append, hc, Option.some_or]
  rintro ⟨⟩
  exact h.notMem rfl (List.mem_of_getLast? hc)

namespace SpanParts

variable {p : SpanParts}

/-- The digits after the point, if there are any. -/
def fractionDigits (p : SpanParts) : List Char :=
  p.fraction?.getD []

theorem fractionTicks_digits (p : SpanParts) :
    fractionTicks p.fractionDigits = p.fraction?.elim 0 fractionTicks := by
  unfold fractionDigits
  cases p.fraction? <;> rfl

theorem Valid.fractionDigits (hp : p.Valid) :
    p.fractionDigits.length ≤ 7 ∧ p.fractionDigits.all isAsciiDigit = true := by
  unfold SpanParts.fractionDigits
  cases hf : p.fraction? with
  | none => exact ⟨Nat.zero_le 7, rfl⟩
  | some f => exact ⟨(hp.fraction f hf).2, (hp.fraction f hf).1.digits⟩

theorem Valid.notMem_clock (hp : p.Valid) {c : Char} (hdigit : isAsciiDigit c = false)
    (hcolon : c ≠ ':') : c ∉ p.clock.text := by
  simp [ClockParts.text, hp.clock.hours.notMem hdigit, hp.clock.minutes.notMem hdigit,
    hp.clock.seconds.notMem hdigit, hcolon]

theorem Valid.notMem_body (hp : p.Valid) {c : Char} (hdigit : isAsciiDigit c = false)
    (hcolon : c ≠ ':') (hpoint : c ≠ '.') : c ∉ p.body := by
  have hdays : c ∉ p.days?.elim [] (· ++ ['.']) := by
    cases hd : p.days? with
    | none => exact List.not_mem_nil
    | some d => simp [(hp.days d hd).notMem hdigit, hpoint]
  have hfraction : c ∉ p.fraction?.elim [] ('.' :: ·) := by
    cases hf : p.fraction? with
    | none => exact List.not_mem_nil
    | some f => simp [(hp.fraction f hf).1.notMem hdigit, hpoint]
  simp [body, hdays, hp.notMem_clock hdigit hcolon, hfraction]

theorem Valid.getLast?_body (hp : p.Valid) (front : List Char) :
    (front ++ p.body).getLast? ≠ some '.' := by
  cases hf : p.fraction? with
  | none =>
      have hbody : front ++ p.body = front ++ p.days?.elim [] (· ++ ['.']) ++ p.clock.hours ++
          [':'] ++ p.clock.minutes ++ [':'] ++ p.clock.seconds := by
        simp [body, ClockParts.text, hf]
      rw [hbody]
      exact hp.clock.seconds.getLast?_append _
  | some f =>
      have hbody : front ++ p.body =
          front ++ p.days?.elim [] (· ++ ['.']) ++ p.clock.text ++ ['.'] ++ f := by
        simp [body, hf]
      rw [hbody]
      exact (hp.fraction f hf).1.getLast?_append _

theorem Valid.splitOnce?_clock (hp : p.Valid) :
    Text.splitOnce? '.' (p.clock.text ++ p.fraction?.elim [] ('.' :: ·)) =
      p.fraction?.map (p.clock.text, ·) := by
  have hclock := hp.notMem_clock (c := '.') rfl (by decide)
  cases p.fraction? with
  | none =>
      show Text.splitOnce? '.' (p.clock.text ++ []) = none
      rw [List.append_nil, Text.splitOnce?_of_notMem hclock]
  | some f => exact Text.splitOnce?_append_cons hclock

end SpanParts

/-- The sum of the days and the rest is a number of the range if each step to it gives one. -/
theorem checked_days {d : List Char} (hd : IsNumeral d) (rest : Nat) :
    ((int64? d).bind fun days => (Word.ofInt? .int64 (days * 864000000000)).bind fun days =>
      (Word.ofInt? .int64 (days.val + rest)).bind fun total => some total.val) =
      (Word.ofInt? .int64 ((ofDigits d * 864000000000 + rest : Nat) : Int)).map (·.val) := by
  by_cases hmax : ofDigits d * 864000000000 + rest ≤ 9223372036854775807
  · have hread : int64? d = some (ofDigits d : Int) :=
      int64?_of_integer? (Text.integer?_of_all hd.ne_nil hd.digits) (by omega) (by omega)
    rw [hread, Option.bind_some, ofInt?_of_mem (by omega) (by omega), Option.bind_some,
      ofInt?_of_mem (by dsimp only; omega) (by dsimp only; omega),
      ofInt?_of_mem (by omega) (by omega)]
    dsimp only [Option.bind_some, Option.map_some]
    congr 1
  · have hout : Word.ofInt? .int64 ((ofDigits d * 864000000000 + rest : Nat) : Int) = none :=
      dif_neg fun h => hmax (Int.ofNat_le.1 h.2)
    rw [hout, Option.map_none, Option.eq_none_iff_forall_ne_some]
    intro n h
    obtain ⟨days, hdays, h⟩ := Option.bind_eq_some_iff.1 h
    obtain ⟨product, hproduct, h⟩ := Option.bind_eq_some_iff.1 h
    obtain ⟨total, htotal, -⟩ := Option.bind_eq_some_iff.1 h
    obtain ⟨-, rfl, -⟩ := (int64?_eq_some_iff (hd.notMem rfl) (hd.notMem rfl)).1 hdays
    have hproduct := Word.ofInt?_eq_some.1 hproduct
    have htotal := Word.ofInt?_eq_some.1 htotal
    have hle : total.val ≤ 9223372036854775807 := total.le_max
    omega

/-- What has the form is read as its ticks, if they are in the range. -/
theorem magnitudeBy_body (hsettle : KeepsInRange settle) {p : SpanParts} (hp : p.Valid) :
    magnitudeBy settle p.body = (Word.ofInt? .int64 p.magnitude).map (·.val) := by
  obtain ⟨hlength, hdigits⟩ := hp.fractionDigits
  have hclock := clockTicksBy_text hsettle hp.clock hlength hdigits
  have hticks := fractionTicks_lt hlength hdigits
  have hcount := hp.clock.count_lt
  have hcolon : p.clock.text.contains ':' = true := by simp [ClockParts.text]
  rw [SpanParts.fractionTicks_digits] at hclock hticks
  cases hdays : p.days? with
  | none =>
      have hbody : p.body = p.clock.text ++ p.fraction?.elim [] ('.' :: ·) := by
        rw [SpanParts.body, hdays]
        rfl
      rw [SpanParts.magnitude, hdays, Option.elim_none, Nat.zero_mul, Nat.zero_add,
        ofInt?_of_mem (by omega) (by omega), Option.map_some, ← hclock, magnitudeBy, hbody,
        hp.splitOnce?_clock, SpanParts.fractionDigits]
      cases p.fraction? with
      | none =>
          show clockTicksBy settle (p.clock.text ++ []) [] = clockTicksBy settle p.clock.text []
          rw [List.append_nil]
      | some f => exact if_pos hcolon
  | some d =>
      have hd := hp.days d hdays
      have hbody : p.body = d ++ '.' :: (p.clock.text ++ p.fraction?.elim [] ('.' :: ·)) := by
        rw [SpanParts.body, hdays, Option.elim_some, List.append_assoc]
        rfl
      have hnocolon : d.contains ':' = false := by simp [hd.notMem (c := ':') rfl]
      have hrest : (Text.splitOnce? '.' (p.clock.text ++ p.fraction?.elim [] ('.' :: ·))).getD
          (p.clock.text ++ p.fraction?.elim [] ('.' :: ·), []) =
            (p.clock.text, p.fractionDigits) := by
        rw [hp.splitOnce?_clock, SpanParts.fractionDigits]
        cases p.fraction? with
        | none => exact congrArg (·, []) (List.append_nil _)
        | some f => rfl
      rw [magnitudeBy, hbody, Text.splitOnce?_append_cons (hd.notMem rfl)]
      dsimp only
      rw [hnocolon, if_neg Bool.false_ne_true, hrest]
      dsimp only [ticksPerDay]
      rw [hclock, SpanParts.magnitude, hdays]
      exact checked_days hd _

/-- Without signs and a point at the end, only what has the form is read. -/
theorem of_magnitudeBy (hplus : '+' ∉ body) (hminus : '-' ∉ body)
    (hpoint : body.getLast? ≠ some '.') (h : magnitudeBy settle body = some n) (negative : Bool) :
    ∃ p : SpanParts, p.Valid ∧ p.negative = negative ∧ p.body = body := by
  unfold magnitudeBy at h
  split at h
  · obtain ⟨c, hc, rfl, -⟩ := of_clockTicksBy hplus hminus h
    exact ⟨⟨negative, none, c, none⟩, ⟨nofun, hc, nofun⟩, rfl, List.append_nil _⟩
  · rename_i first rest hsplit
    obtain ⟨rfl, -⟩ := Text.splitOnce?_eq_some hsplit
    simp only [List.mem_append, List.mem_cons, not_or] at hplus hminus
    split at h
    · obtain ⟨c, hc, rfl, hlength, hdigits⟩ := of_clockTicksBy hplus.1 hminus.1 h
      have hne : rest ≠ [] := by
        rintro rfl
        exact hpoint List.getLast?_concat
      exact ⟨⟨negative, none, c, some rest⟩,
        ⟨nofun, hc, by rintro _ ⟨⟩; exact ⟨⟨hne, hdigits⟩, hlength⟩⟩, rfl, rfl⟩
    · obtain ⟨days, hdays, h⟩ := Option.bind_eq_some_iff.1 h
      obtain ⟨ticks, hticks, -⟩ := Option.bind_eq_some_iff.1 h
      obtain ⟨hfirst, -⟩ := (int64?_eq_some_iff hplus.1 hminus.1).1 hdays
      have hd : ∀ d ∈ some first, IsNumeral d := by
        rintro _ ⟨⟩
        exact hfirst
      cases hagain : Text.splitOnce? '.' rest with
      | none =>
          rw [hagain] at hticks
          obtain ⟨c, hc, rfl, -⟩ := of_clockTicksBy hplus.2.2 hminus.2.2 hticks
          exact ⟨⟨negative, some first, c, none⟩, ⟨hd, hc, nofun⟩, rfl, by simp [SpanParts.body]⟩
      | some parts =>
          obtain ⟨clock, fraction⟩ := parts
          rw [hagain] at hticks
          obtain ⟨rfl, -⟩ := Text.splitOnce?_eq_some hagain
          simp only [List.mem_append, List.mem_cons, not_or] at hplus hminus
          obtain ⟨c, hc, rfl, hlength, hdigits⟩ := of_clockTicksBy hplus.2.2.1 hminus.2.2.1 hticks
          have hne : fraction ≠ [] := by
            rintro rfl
            rw [← List.cons_append, ← List.append_assoc] at hpoint
            exact hpoint List.getLast?_concat
          exact ⟨⟨negative, some first, c, some fraction⟩,
            ⟨hd, hc, by rintro _ ⟨⟩; exact ⟨⟨hne, hdigits⟩, hlength⟩⟩, rfl,
            by simp [SpanParts.body]⟩

/-- Without signs and a point at the end, the numbers are those of the fields. -/
theorem magnitudeBy_eq_some_iff (hsettle : KeepsInRange settle) (hplus : '+' ∉ body)
    (hminus : '-' ∉ body) (hpoint : body.getLast? ≠ some '.') (negative : Bool) :
    magnitudeBy settle body = some n ↔ ∃ p : SpanParts, p.Valid ∧ p.negative = negative ∧
      p.body = body ∧ n = p.magnitude ∧ n ≤ WordKind.int64.max := by
  constructor
  · intro h
    obtain ⟨p, hp, hnegative, rfl⟩ := of_magnitudeBy hplus hminus hpoint h negative
    rw [magnitudeBy_body hsettle hp] at h
    obtain ⟨w, hw, rfl⟩ := Option.map_eq_some_iff.1 h
    exact ⟨p, hp, hnegative, rfl, Word.ofInt?_eq_some.1 hw ▸ rfl, w.le_max⟩
  · rintro ⟨p, hp, -, rfl, rfl, hmax⟩
    rw [magnitudeBy_body hsettle hp,
      ofInt?_of_mem (Int.le_trans (by decide) (Int.natCast_nonneg _)) hmax]
    rfl

/-! ### Spans -/

theorem SpanParts.Valid.text_eq_minus_iff {p : SpanParts} (hp : p.Valid) :
    p.text = '-' :: body ↔ p.negative = true ∧ p.body = body := by
  unfold SpanParts.text
  cases p.negative with
  | true => simp
  | false =>
      refine ⟨fun h => ?_, nofun⟩
      have hbody : p.body = '-' :: body := h
      have hminus : '-' ∈ p.body := hbody ▸ List.mem_cons_self ..
      exact absurd hminus (hp.notMem_body rfl (by decide) (by decide))

theorem SpanParts.text_eq_iff {p : SpanParts} (hbody : ∀ rest, body ≠ '-' :: rest) :
    p.text = body ↔ p.negative = false ∧ p.body = body := by
  unfold SpanParts.text
  cases p.negative with
  | true => exact ⟨fun h => absurd h.symm (hbody _), nofun⟩
  | false => simp

theorem SpanParts.Valid.isTidy {p : SpanParts} (hp : p.Valid) : IsTidy p.text := by
  have hplus : '+' ∉ p.body := hp.notMem_body rfl (by decide) (by decide)
  have hminus : '-' ∉ p.body := hp.notMem_body rfl (by decide) (by decide)
  refine ⟨?_, ?_, hp.getLast?_body _⟩
  · unfold SpanParts.text
    split <;> simp [hplus]
  · unfold SpanParts.text
    split
    · exact hminus
    · exact fun h => hminus (List.mem_of_mem_tail h)

theorem Denotes.isTidy {cs : List Char} (h : Denotes cs n) : IsTidy cs := by
  obtain ⟨p, hp, rfl, -⟩ := h
  exact hp.isTidy

/-- A tidy text is read as the ticks that it denotes, if these are in the range and not the least
tick count; no number on the way matters for it. -/
theorem spanTicksBy_eq_some_iff (hsettle : KeepsInRange settle) {cs : List Char}
    (hcs : IsTidy cs) : spanTicksBy settle cs = some n ↔
      Denotes cs n ∧ WordKind.int64.min < n ∧ n ≤ WordKind.int64.max := by
  have hmin : WordKind.int64.min = -WordKind.int64.max - 1 := rfl
  have hmax : 0 < WordKind.int64.max := by decide
  obtain ⟨hplus, hminus, hpoint⟩ := hcs
  unfold spanTicksBy
  split
  · rename_i body
    have hplus := List.not_mem_of_not_mem_cons hplus
    have hpoint : body.getLast? ≠ some '.' := by
      intro hlast
      rw [List.getLast?_cons, hlast] at hpoint
      exact hpoint rfl
    constructor
    · intro h
      obtain ⟨k, hk, hsettled⟩ := Option.bind_eq_some_iff.1 h
      obtain ⟨p, hp, hnegative, hbody, rfl, hle⟩ :=
        (magnitudeBy_eq_some_iff hsettle hplus hminus hpoint true).1 hk
      rw [hsettle _ (by omega) (by omega)] at hsettled
      obtain rfl := Option.some.inj hsettled
      have hticks : p.ticks = -(p.magnitude : Int) := if_pos hnegative
      exact ⟨⟨p, hp, hp.text_eq_minus_iff.2 ⟨hnegative, hbody⟩, hticks⟩, by omega, by omega⟩
    · rintro ⟨⟨p, hp, htext, rfl⟩, hgt, hle⟩
      obtain ⟨hnegative, hbody⟩ := hp.text_eq_minus_iff.1 htext
      have hticks : p.ticks = -(p.magnitude : Int) := if_pos hnegative
      rw [hticks] at hgt hle ⊢
      rw [(magnitudeBy_eq_some_iff hsettle hplus hminus hpoint true).2
        ⟨p, hp, hnegative, hbody, rfl, by omega⟩, Option.bind_some,
        hsettle _ (by omega) (by omega)]
  · rename_i hcs
    have hminus : '-' ∉ cs := by
      intro h
      cases cs with
      | nil => cases h
      | cons c rest =>
          rcases List.mem_cons.1 h with rfl | h
          · exact hcs rest rfl
          · exact hminus h
    have hticks {p : SpanParts} (h : p.negative = false) : p.ticks = p.magnitude :=
      if_neg (h ▸ Bool.false_ne_true)
    rw [magnitudeBy_eq_some_iff hsettle hplus hminus hpoint false]
    constructor
    · rintro ⟨p, hp, hnegative, hbody, rfl, hle⟩
      exact ⟨⟨p, hp, (SpanParts.text_eq_iff hcs).2 ⟨hnegative, hbody⟩, hticks hnegative⟩,
        by omega, hle⟩
    · rintro ⟨⟨p, hp, htext, rfl⟩, -, hle⟩
      obtain ⟨hnegative, hbody⟩ := (SpanParts.text_eq_iff hcs).1 htext
      exact ⟨p, hp, hnegative, hbody, hticks hnegative, hle⟩

theorem keepsInRange_wrap64 : KeepsInRange fun n => some (wrap64 n) :=
  fun _ hmin hmax => congrArg some (wrap64_of_mem hmin hmax)

/-- What is read from a tidy text is what it denotes, but for the least tick count, and no number
on the way is out of the range; and a text that denotes something is tidy. -/
theorem spanTicks?_denotes (cs : List Char) :
    (∀ n, spanTicks? cs = some n ∧ IsTidy cs ↔
      Denotes cs n ∧ WordKind.int64.min < n ∧ n ≤ WordKind.int64.max) ∧
    (IsTidy cs → ∀ settle, KeepsInRange settle → spanTicksBy settle cs = spanTicks? cs) := by
  have hread (hcs : IsTidy cs) (n : Int) := spanTicksBy_eq_some_iff (n := n) keepsInRange_wrap64 hcs
  simp only [spanTicksBy_wrap64] at hread
  constructor
  · intro n
    constructor
    · rintro ⟨h, hcs⟩
      exact (hread hcs n).1 h
    · intro h
      exact ⟨(hread h.1.isTidy n).2 h, h.1.isTidy⟩
  · intro hcs settle hsettle
    refine Option.ext fun n => ?_
    rw [spanTicksBy_eq_some_iff hsettle hcs, hread hcs n]


end Reading

theorem keepsInRange_ofInt? : KeepsInRange fun n => (Word.ofInt? .int64 n).map (·.val) :=
  fun _ hmin hmax => congrArg (Option.map _) (ofInt?_of_mem hmin hmax)

/-- Half a second, with days and a sign. -/
theorem spanTicks?_denotes_days :
    (spanTicks? "-1.02:03:04.5".toList = some (-937845000000) ∧ IsTidy "-1.02:03:04.5".toList) ∧
    KeepsInRange (fun n => (Word.ofInt? .int64 n).map (·.val)) ∧
    Denotes "-1.02:03:04.5".toList (-937845000000) ∧
    spanTicksBy (fun n => (Word.ofInt? .int64 n).map (·.val)) "-1.02:03:04.5".toList =
      spanTicks? "-1.02:03:04.5".toList := by
  have htidy : IsTidy "-1.02:03:04.5".toList := ⟨by decide, by decide, by decide⟩
  have hread : spanTicks? "-1.02:03:04.5".toList = some (-937845000000) := rfl
  obtain ⟨hdenotes, hway⟩ := spanTicks?_denotes "-1.02:03:04.5".toList
  exact ⟨⟨hread, htidy⟩, keepsInRange_ofInt?, ((hdenotes _).1 ⟨hread, htidy⟩).1,
    hway htidy _ keepsInRange_ofInt?⟩

/-- Signs in front of fields and a point at the end are read although they are not of the form, and
hours below the 64-bit range in seconds are read as what is left of them; the least span has the
form and is not read. -/
theorem spanTicks?_not_denoted :
    (spanTicks? "+1:00:00".toList = some 36000000000 ∧
      ∀ n, ¬ Denotes "+1:00:00".toList n) ∧
    (spanTicks? "00:00:-1".toList = some (-10000000) ∧
      ∀ n, ¬ Denotes "00:00:-1".toList n) ∧
    (spanTicks? "00:00:01.".toList = some 10000000 ∧
      ∀ n, ¬ Denotes "00:00:01.".toList n) ∧
    (spanTicks? "0.-9223372036854775808:00:00".toList = some 0 ∧
      spanTicksBy (fun n => (Word.ofInt? .int64 n).map (·.val))
        "0.-9223372036854775808:00:00".toList = none) ∧
    (Denotes "-10675199.02:48:05.4775808".toList WordKind.int64.min ∧
      spanTicks? "-10675199.02:48:05.4775808".toList = none) := by
  refine ⟨⟨by decide +kernel, fun n h => ?_⟩, ⟨by decide +kernel, fun n h => ?_⟩,
    ⟨by decide +kernel, fun n h => ?_⟩, ⟨by decide +kernel, by decide +kernel⟩, ?_, rfl⟩
  · exact absurd h.isTidy.plus (by decide)
  · exact absurd h.isTidy.minus (by decide)
  · exact absurd h.isTidy.point (by decide)
  · have hclock : ClockParts.Valid ⟨"02".toList, "48".toList, "05".toList⟩ :=
      ⟨⟨by decide, rfl⟩, ⟨by decide, rfl⟩, ⟨by decide, rfl⟩, by decide, by decide, by decide⟩
    refine ⟨⟨true, some "10675199".toList, _, some "4775808".toList⟩, ⟨?_, hclock, ?_⟩, rfl, rfl⟩
    · rintro _ ⟨⟩
      exact ⟨by decide, rfl⟩
    · rintro _ ⟨⟩
      exact ⟨⟨by decide, rfl⟩, by decide⟩

end Elementwise.Time
