import Elementwise.Time.DateTime
import Elementwise.Text.Search
import Elementwise.Text.Numeral

/-!
Reading dates and spans.  A date may be written with or without a time of day and with space before
any of its numbers; a date with an offset has the stricter form of the internet standard.
-/

namespace Elementwise.Time

open Text (isAsciiDigit ofDigits)

/-! ### Numbers in fields -/

/-- Reads between `least` and `most` digits. -/
def field? (least most : Nat) (cs : List Char) : Option (Nat × List Char) :=
  let ds := (cs.takeWhile isAsciiDigit).take most
  if ds.length < least then none else some (ofDigits ds, cs.drop ds.length)

def char? (c : Char) : List Char → Option (List Char)
  | d :: cs => if c = d then some cs else none
  | [] => none

/-- Reads the digits of a fraction of a second after its point; those past the ninth are skipped. -/
def nanos? (cs : List Char) : Option (Nat × List Char) :=
  let ds := cs.takeWhile isAsciiDigit
  let kept := ds.take 9
  if ds.isEmpty then none
  else some (ofDigits kept * Nat.pow 10 (9 - kept.length), cs.drop ds.length)

/-- Reads a fraction of a second if there is a point. -/
def fraction? : List Char → Option (Nat × List Char)
  | '.' :: cs => nanos? cs
  | cs => some (0, cs)

/-! ### Dates and times of day -/

/-- A number of up to two digits, with space before it. -/
def short? (cs : List Char) : Option (Nat × List Char) :=
  field? 1 2 (Text.trimStart cs)

/-- A year of up to four digits, or of any length after a sign. -/
def year? (cs : List Char) : Option (Int × List Char) :=
  match Text.trimStart cs with
  | '-' :: cs => (field? 1 cs.length cs).map fun (n, cs) => (-(n : Int), cs)
  | '+' :: cs => (field? 1 cs.length cs).map fun (n, cs) => ((n : Int), cs)
  | cs => (field? 1 4 cs).map fun (n, cs) => ((n : Int), cs)

/-- The day of a date for which dates are kept. -/
def day? (year : Int) (month day : Nat) : Option Int :=
  if -262143 ≤ year ∧ year ≤ 262142 then dayOf? year month day else none

/-- A time of day; second 60 is a leap second. -/
def time? (day : Int) (hour minute second nano : Nat) : Option DateTime :=
  let leap := second = 60
  let second := if leap then 59 else second
  let nano := if leap then nano + 1000000000 else nano
  if h : hour < 24 ∧ minute < 60 ∧ second < 60 ∧ nano < 2000000000 then
    some ⟨day, ⟨(hour * 60 + minute) * 60 + second, by omega⟩, ⟨nano, h.2.2.2⟩⟩
  else none

/-- Reads year, month and day. -/
def dateFields? (cs : List Char) : Option (Int × List Char) := do
  let (year, cs) ← year? cs
  let cs ← char? '-' cs
  let (month, cs) ← short? cs
  let cs ← char? '-' cs
  let (day, cs) ← short? cs
  let day ← day? year month day
  return (day, cs)

/-- Reads a time of day to the end. -/
def timeFields? (day : Int) (cs : List Char) : Option DateTime := do
  let (hour, cs) ← short? cs
  let cs ← char? ':' cs
  let (minute, cs) ← short? cs
  let cs ← char? ':' cs
  let (second, cs) ← short? cs
  let (nano, cs) ← fraction? cs
  if cs.isEmpty then time? day hour minute second nano else none

/-- A date alone, or with a time of day after `T` or after any amount of space. -/
def DateTime.parse? (cs : List Char) : Option DateTime := do
  let (day, rest) ← dateFields? cs
  match rest with
  | [] => return DateTime.midnight day
  | 'T' :: rest => timeFields? day rest
  | rest => timeFields? day rest

/-! ### Dates with an offset -/

/-- Reads an offset: `Z`, or a sign, two digits of hours and two of minutes. -/
def offset? (cs : List Char) : Option (Int × List Char) :=
  let magnitude? (cs : List Char) : Option (Int × List Char) := do
    let (hours, cs) ← field? 2 2 cs
    let cs ← char? ':' cs
    let (minutes, cs) ← field? 2 2 cs
    if hours < 24 ∧ minutes < 60 then return (hours * 3600 + minutes * 60, cs) else none
  match cs with
  | 'Z' :: cs | 'z' :: cs => some (0, cs)
  | '+' :: cs => magnitude? cs
  | '-' :: cs | '−' :: cs => (magnitude? cs).map fun (n, cs) => (-n, cs)
  | _ => none

def OffsetDateTime.parse? (cs : List Char) : Option OffsetDateTime := do
  let (year, cs) ← field? 4 4 cs
  let cs ← char? '-' cs
  let (month, cs) ← field? 2 2 cs
  let cs ← char? '-' cs
  let (day, cs) ← field? 2 2 cs
  let cs ← match cs with
    | c :: cs => if c = 'T' ∨ c = 't' ∨ c = ' ' then some cs else none
    | [] => none
  let (hour, cs) ← field? 2 2 cs
  let cs ← char? ':' cs
  let (minute, cs) ← field? 2 2 cs
  let cs ← char? ':' cs
  let (second, cs) ← field? 2 2 cs
  let (nano, cs) ← fraction? cs
  let (offset, cs) ← offset? cs
  if cs.isEmpty then
    let day ← day? year month day
    let clock ← time? day hour minute second nano
    return ⟨clock, offset⟩
  else none

/-! ### Spans -/

open Number

/-- An integer in the 64-bit range. -/
def int64? (cs : List Char) : Option Int :=
  ((Text.integer? cs).bind (Word.ofInt? .int64)).map (·.val)

def wrap64 (n : Int) : Int :=
  (Word.wrap .int64 n).val

/-- The ticks of `h:m:s` and the digits of a fraction, each limited from above only. -/
def clockTicks? (clock fraction : List Char) : Option Int :=
  match (Text.splitOn ':' clock).map int64? with
  | [some h, some m, some s] =>
    if h < 24 ∧ m < 60 ∧ s < 60 ∧ fraction.length ≤ 7 ∧ fraction.all isAsciiDigit then
      let seconds := wrap64 (wrap64 (wrap64 (wrap64 (h * 60) + m) * 60) + s)
      let rest := ofDigits fraction * Nat.pow 10 (7 - fraction.length)
      some (wrap64 (wrap64 (seconds * ticksPerSecond) + rest))
    else none
  | _ => none

/-- The tick count of `[-][d.]hh:mm:ss[.fffffff]`; before the first point stand the days, unless
there is a colon before it. -/
def spanTicks? (cs : List Char) : Option Int :=
  let (negative, body) := match cs with
    | '-' :: body => (true, body)
    | body => (false, body)
  let ticks? :=
    match Text.splitOnce? '.' body with
    | none => clockTicks? body []
    | some (first, rest) =>
      if first.contains ':' then clockTicks? first rest
      else do
        let (clock, fraction) := (Text.splitOnce? '.' rest).getD (rest, [])
        let days ← int64? first
        let ticks ← clockTicks? clock fraction
        let days ← Word.ofInt? .int64 (days * ticksPerDay)
        let total ← Word.ofInt? .int64 (days.val + ticks)
        return total.val
  ticks?.map fun ticks => if negative then wrap64 (-ticks) else ticks

end Elementwise.Time
