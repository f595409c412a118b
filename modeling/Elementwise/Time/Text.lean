import Elementwise.Time.DateTime
import Elementwise.Text.Numeral

/-!
How dates and spans are written: the language's own text, the form used in JSON, and the form in
which messages quote a date.
-/

namespace Elementwise.Time

open Text (padded)

/-! ### Parts -/

/-- Four digits, or a sign and at least four digits outside the years 0 to 9999. -/
def yearText (year : Int) : List Char :=
  if 0 ≤ year ∧ year ≤ 9999 then padded 4 year.natAbs
  else (if year < 0 then '-' else '+') :: padded 4 year.natAbs

/-- Nothing for zero, otherwise a point and three, six or nine digits. -/
def fractionText (nanos : Nat) : List Char :=
  if nanos = 0 then []
  else if nanos % 1000000 = 0 then '.' :: padded 3 (nanos / 1000000)
  else if nanos % 1000 = 0 then '.' :: padded 6 (nanos / 1000)
  else '.' :: padded 9 nanos

namespace DateTime

/-- Hours, minutes and seconds; a leap second is second 60. -/
def clockText (t : DateTime) : List Char :=
  padded 2 t.hour ++ ':' :: padded 2 t.minute ++ ':' ::
    padded 2 (t.secondOfMinute + t.nano.val / nanosPerSecond)

def fractionText (t : DateTime) : List Char :=
  Time.fractionText (t.nano.val % nanosPerSecond)

def isoDate (t : DateTime) : List Char :=
  let d := t.date
  yearText d.year ++ '-' :: padded 2 d.month ++ '-' :: padded 2 d.day

/-! ### Dates -/

def text (t : DateTime) : List Char :=
  let d := t.date
  padded 2 d.month ++ '/' :: padded 2 d.day ++ '/' :: yearText d.year ++ ' ' :: t.clockText

def json (t : DateTime) : List Char :=
  t.isoDate ++ 'T' :: t.clockText ++ t.fractionText

/-- The form in which messages quote a date. -/
def quoted (t : DateTime) : List Char :=
  t.isoDate ++ ' ' :: t.clockText ++ t.fractionText

end DateTime

/-- Sign, hours and minutes of an offset. -/
def offsetText (seconds : Int) : List Char :=
  (if seconds < 0 then '-' else '+') ::
    padded 2 (seconds.natAbs / 3600) ++ ':' :: padded 2 (seconds.natAbs / 60 % 60)

namespace OffsetDateTime

def text (t : OffsetDateTime) : List Char :=
  t.clock.text ++ ' ' :: offsetText t.offset

def json (t : OffsetDateTime) : List Char :=
  t.clock.json ++ offsetText t.offset

end OffsetDateTime

/-! ### Spans -/

/-- `[-][d.]hh:mm:ss[.fffffff]` for a tick count. -/
def spanText (ticks : Int) : List Char :=
  let n := ticks.natAbs
  let days := n / 864000000000
  let hours := n % 864000000000 / 36000000000
  let minutes := n % 36000000000 / 600000000
  let seconds := n % 600000000 / 10000000
  let fraction := n % 10000000
  (if ticks < 0 then ['-'] else []) ++
    (if 0 < days then Text.digits days ++ ['.'] else []) ++
    padded 2 hours ++ ':' :: padded 2 minutes ++ ':' :: padded 2 seconds ++
    (if 0 < fraction then '.' :: padded 7 fraction else [])

def Span.text (s : Span) : List Char :=
  spanText s.clampedTicks

end Elementwise.Time
