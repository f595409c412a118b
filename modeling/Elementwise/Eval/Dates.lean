import Elementwise.Eval.Arguments
import Elementwise.Eval.Arithmetic
import Elementwise.Library.Builtin
import Elementwise.Value.DayOfWeek

/-!
The members of dates and spans.
-/

namespace Elementwise.Eval

open Number (Binary Word WordKind floatOfInt floatPositional)
open Time (Span DateTime)

/-! ### Spans from counts of units -/

def unitTicks : TimeUnit → Int
  | .days => Time.ticksPerDay
  | .hours => Time.ticksPerHour
  | .minutes => Time.ticksPerMinute
  | .seconds => Time.ticksPerSecond
  | .milliseconds => Time.ticksPerMillisecond

/-- The span of a number of units, computed in double precision and cut to whole ticks. -/
def spanOf (amount : Float) (unit : TimeUnit) : Except Fault Span :=
  if amount.isNaN then .error (.invalidArgument .notANumberInterval)
  else
    let ticks := ((Binary.ofFloat (amount * floatOfInt (unitTicks unit))).round? .toZero).bind
      (Word.ofInt? .int64)
    match ticks with
    | some w => .ok (.ofTicks w.val)
    | none => .error (.overflow (floatPositional amount) Ty.timeSpan.name)

/-- A date moved by a span. -/
def addToDate (v : Value) (s : Span) : Outcome :=
  match v with
  | .dateTime t => (shiftDate t s).map .dateTime
  | .dateTimeOffset t => (shiftOffsetDate t s).map .dateTimeOffset
  | v => .error (.unexpected v "date arithmetic")

/-! ### The calendar -/

def validYear (year : Int) : Except Fault Int :=
  if 1 ≤ year ∧ year ≤ 9999 then .ok year else .error (.invalidArgument (.year year))

def daysInMonth (year month : Int) : Outcome := do
  let year ← validYear year
  match Time.daysInMonth? year month.toNat with
  | some days => .ok (.count days)
  | none => .error (.invalidArgument (.month month))

/-! ### Parts -/

def datePart (part : DatePart) (t : DateTime) : Value :=
  match part with
  | .year => .int32 (.wrap .int32 t.date.year)
  | .month => .count t.date.month
  | .day => .count t.date.day
  | .hour => .count t.hour
  | .minute => .count t.minute
  | .second => .count t.secondOfMinute
  | .millisecond => .count t.millisecond
  | .dayOfYear => .count t.dayOfYear
  | .ticks => .int64 (.wrap .int64 t.ticks)

def spanPart (part : SpanPart) (s : Span) : Value :=
  let ticks := s.clampedTicks
  let int (n : Int) := Value.int32 (.wrap .int32 n)
  match part with
  | .days => int (ticks.tdiv Time.ticksPerDay)
  | .hours => int ((ticks.tdiv Time.ticksPerHour).tmod 24)
  | .minutes => int ((ticks.tdiv Time.ticksPerMinute).tmod 60)
  | .seconds => int ((ticks.tdiv Time.ticksPerSecond).tmod 60)
  | .milliseconds => int ((ticks.tdiv Time.ticksPerMillisecond).tmod 1000)
  | .ticks => .int64 (.wrap .int64 ticks)

def spanTotal (unit : TimeUnit) (s : Span) : Value :=
  .double (floatOfInt s.clampedTicks / floatOfInt (unitTicks unit))

end Elementwise.Eval
