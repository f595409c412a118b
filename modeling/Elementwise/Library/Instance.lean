import Elementwise.Library.Member

/-!
The members that values have, by their static type.  They do not depend on the catalog.  A nullable
value has members of its own only; those of the value in it are reached through `Value`.
-/

namespace Elementwise.Ty

/-! ### Strings -/

def stringMembers : List Member :=
  [.property "Length" int32 .stringLength,
   .single "ToUpper" [] string .toUpper,
   .single "ToLower" [] string .toLower,
   .single "Trim" [] string .trim,
   .method "Contains" [⟨[string], boolean, .contains⟩, ⟨[char], boolean, .contains⟩],
   .single "StartsWith" [string] boolean .startsWith,
   .single "EndsWith" [string] boolean .endsWith,
   .method "Substring" [⟨[int32], string, .substring⟩, ⟨[int32, int32], string, .substring⟩],
   .method "IndexOf" [⟨[string], int32, .indexOf⟩, ⟨[char], int32, .indexOf⟩],
   .method "Replace" [⟨[string, string], string, .replace⟩, ⟨[char, char], string, .replace⟩]]

/-! ### Dates and spans -/

/-- The members of dates with and without an offset; moving a date keeps its type. -/
def dateMembers (own : Ty) : List Member :=
  let part (name : String) (p : DatePart) := Member.property name int32 (.datePart p)
  let add (name : String) (unit : TimeUnit) := Member.single name [double] own (.addTime unit)
  [part "Year" .year, part "Month" .month, part "Day" .day, part "Hour" .hour,
   part "Minute" .minute, part "Second" .second, part "Millisecond" .millisecond,
   part "DayOfYear" .dayOfYear,
   .property "Ticks" int64 (.datePart .ticks),
   .property "DayOfWeek" dayOfWeek .dayOfWeek,
   .property "Date" dateTime .date,
   .property "TimeOfDay" timeSpan .timeOfDay,
   add "AddDays" .days, add "AddHours" .hours, add "AddMinutes" .minutes,
   add "AddSeconds" .seconds, add "AddMilliseconds" .milliseconds,
   .single "AddTicks" [int64] own .addTicks]

def offsetMembers : List Member :=
  [.property "Offset" timeSpan .offset,
   .property "DateTime" dateTime .localDateTime,
   .property "UtcDateTime" dateTime .utcDateTime,
   .property "UtcTicks" int64 .utcTicks]

def spanMembers : List Member :=
  let part (name : String) (p : SpanPart) := Member.property name int32 (.spanPart p)
  let total (name : String) (unit : TimeUnit) := Member.property name double (.spanTotal unit)
  [.property "Ticks" int64 (.spanPart .ticks),
   part "Days" .days, part "Hours" .hours, part "Minutes" .minutes, part "Seconds" .seconds,
   part "Milliseconds" .milliseconds,
   total "TotalDays" .days, total "TotalHours" .hours, total "TotalMinutes" .minutes,
   total "TotalSeconds" .seconds, total "TotalMilliseconds" .milliseconds]

/-! ### All types -/

/-- The members of a type besides its text. -/
def ownMembers : Ty → List Member
  | nullable t =>
    [.property "HasValue" boolean .hasValue,
     .property "Value" t .nullableValue,
     .method "GetValueOrDefault"
       [⟨[], t, .getValueOrDefault⟩, ⟨[t], t, .getValueOrDefault⟩]]
  | string => stringMembers
  | dateTime => dateMembers dateTime
  | dateTimeOffset => dateMembers dateTimeOffset ++ offsetMembers
  | timeSpan => spanMembers
  | guid => [.single "ToByteArray" [] (array (word .byte)) .toByteArray]
  | array _ => [.property "Length" int32 .arrayLength]
  | _ => []

/-- The members of values of a type: the text that every value has, and its own. -/
def members (t : Ty) : List Member :=
  .single "ToString" [] string .toText :: t.ownMembers

end Elementwise.Ty
