import Elementwise.Time.Calendar
import Elementwise.Time.Span

/-!
Dates with a time of day, and the same with an offset from universal time.  A second may be
followed by a leap second: then its nanosecond count runs on to just below two seconds.  Moving a
date by a span leaves a leap second as soon as the span reaches beyond it.
-/

namespace Elementwise.Time

def nanosPerSecond : Nat := 1000000000

def secondsPerDay : Nat := 86400

/-- A date with a time of day.  The fields are in order of significance. -/
structure DateTime where
  day : Int
  second : Fin 86400
  nano : Fin 2000000000
  deriving DecidableEq

namespace DateTime

def midnight (day : Int) : DateTime :=
  ⟨day, 0, 0⟩

/-- Midnight of January 1 of year 1. -/
def epoch : DateTime :=
  midnight 0

def inLeapSecond (t : DateTime) : Bool :=
  nanosPerSecond ≤ t.nano.val

protected def compare (a b : DateTime) : Ordering :=
  (compare a.day b.day).then ((compare a.second.val b.second.val).then
    (compare a.nano.val b.nano.val))

/-- The reading a number of seconds further on; a leap second stays one. -/
def shiftSeconds (t : DateTime) (seconds : Int) : DateTime :=
  let total := (t.second.val : Int) + seconds
  { t with
    day := t.day + total / 86400
    second := ⟨(total % 86400).toNat, by omega⟩ }

/-! ### Moving by a span -/

/-- The reading at a count of nanoseconds from midnight of a day. -/
def atNanosecond (day : Int) (n : Int) : DateTime :=
  let seconds := n / 1000000000
  { day := day + seconds / 86400
    second := ⟨(seconds % 86400).toNat, by omega⟩
    nano := ⟨(n % 1000000000).toNat, by omega⟩ }

/-- Adds a span.  From within a leap second, a span that ends there moves the fraction only, one
that ends later counts from the second before, and one that ends earlier from the second after. -/
def add (t : DateTime) (s : Span) : DateTime :=
  let seconds := s.nanoseconds.tdiv 1000000000
  let rest := s.nanoseconds.tmod 1000000000
  let base := (t.second.val : Int) * 1000000000 + t.nano.val
  if t.inLeapSecond then
    let nano := (t.nano.val : Int) + rest
    if 0 < seconds ∨ (0 < rest ∧ 2000000000 ≤ nano) then
      atNanosecond t.day (base - 1000000000 + s.nanoseconds)
    else if seconds < 0 then atNanosecond t.day (base + s.nanoseconds)
    else { t with nano := ⟨(nano % 2000000000).toNat, by omega⟩ }
  else atNanosecond t.day (base + s.nanoseconds)

/-- Adds a span, if the result is still a day for which dates are kept. -/
def add? (t : DateTime) (s : Span) : Option DateTime :=
  let r := t.add s
  if firstDay ≤ r.day && r.day ≤ lastDay then some r else none

/-- The span from one reading to another; a leap second between their times of day counts. -/
def since (a b : DateTime) : Span :=
  let seconds := (a.second.val : Int) - b.second.val
  let leap : Int :=
    if b.second < a.second && b.inLeapSecond then 1
    else if a.second < b.second && a.inLeapSecond then -1
    else 0
  ⟨((a.day - b.day) * 86400 + seconds + leap) * 1000000000 + ((a.nano.val : Int) - b.nano.val)⟩

/-- Ticks since the epoch, brought into the 64-bit range. -/
def ticks (t : DateTime) : Int :=
  (t.since epoch).clampedTicks

/-- The tick count of the last tick of year 9999. -/
def maxTicks : Int := 3155378975999999999

/-- Whether a reading lies in the years 1 to 9999. -/
def inCalendar (t : DateTime) : Bool :=
  0 ≤ t.ticks && t.ticks ≤ maxTicks

/-! ### Components -/

def date (t : DateTime) : Date :=
  Time.date t.day

def hour (t : DateTime) : Nat :=
  t.second.val / 3600

def minute (t : DateTime) : Nat :=
  t.second.val / 60 % 60

/-- The second of the minute; a leap second belongs to the second before it. -/
def secondOfMinute (t : DateTime) : Nat :=
  t.second.val % 60

def millisecond (t : DateTime) : Nat :=
  t.nano.val / 1000000

def dayOfYear (t : DateTime) : Nat :=
  (yearDay t.day).day + 1

/-- The span from midnight. -/
def timeOfDay (t : DateTime) : Span :=
  ⟨(t.second.val : Int) * 1000000000 + t.nano.val⟩

end DateTime

/-- A clock reading and the seconds by which that clock is ahead of universal time. -/
structure OffsetDateTime where
  clock : DateTime
  offset : Int

namespace OffsetDateTime

/-- The reading of a clock on universal time at the same instant. -/
def utc (t : OffsetDateTime) : DateTime :=
  t.clock.shiftSeconds (-t.offset)

/-- Instants are compared, not clock readings. -/
protected def compare (a b : OffsetDateTime) : Ordering :=
  a.utc.compare b.utc

end OffsetDateTime

end Elementwise.Time
