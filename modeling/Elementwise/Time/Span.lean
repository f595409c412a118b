import Elementwise.Number.Kind

/-!
Spans of time.  A span is kept to the nanosecond, because dates are, but what the language counts
are ticks of 100 nanoseconds, and a tick count that is no 64-bit integer is out of range.
-/

namespace Elementwise.Time

structure Span where
  nanoseconds : Int
  deriving DecidableEq

namespace Span

open Number

def zero : Span := ⟨0⟩

def ofTicks (ticks : Int) : Span :=
  ⟨ticks * 100⟩

def ofSeconds (seconds : Int) : Span :=
  ⟨seconds * 1000000000⟩

/-- The whole ticks of a span, those of a negative one rounded toward zero. -/
def wholeTicks (s : Span) : Int :=
  s.nanoseconds.tdiv 100

def neg (s : Span) : Span :=
  ⟨-s.nanoseconds⟩

def add (s t : Span) : Span :=
  ⟨s.nanoseconds + t.nanoseconds⟩

/-- The tick count, if it is a 64-bit integer. -/
def ticks? (s : Span) : Option (Word .int64) :=
  Word.ofInt? .int64 s.wholeTicks

/-- The tick count, brought to the nearest 64-bit integer. -/
def clampedTicks (s : Span) : Int :=
  max WordKind.int64.min (min WordKind.int64.max s.wholeTicks)

/-- The span itself, if its tick count is in range. -/
def inRange? (s : Span) : Option Span :=
  s.ticks?.map fun _ => s

theorem wholeTicks_ofTicks (n : Int) : (ofTicks n).wholeTicks = n :=
  Int.mul_tdiv_cancel n (by decide)

end Span

/-! ### Units -/

def ticksPerMillisecond : Int := 10000

def ticksPerSecond : Int := 10000000

def ticksPerMinute : Int := 600000000

def ticksPerHour : Int := 36000000000

def ticksPerDay : Int := 864000000000

end Elementwise.Time
