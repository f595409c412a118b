import Elementwise.Library.Member
import Elementwise.Value.DayOfWeek

/-!
The standard library: the types that an expression may name, which double as conversion functions,
and the classes `Math`, `Convert` and `Regex`, with the members that are reached through their
names.
-/

namespace Elementwise

open Number (NumericKind WordKind Word)

/-- A type or class of the library. -/
structure LibrarySymbol where
  name : String
  aliases : List String
  /-- the type that the name stands for; a class stands for none -/
  target? : Option Ty
  members : List Member
  summary : String

namespace LibrarySymbol

/-- The name, and the aliases after it. -/
def spellings (s : LibrarySymbol) : List String :=
  s.name :: s.aliases

def member? (s : LibrarySymbol) (name : String) : Option Member :=
  Member.find? s.members name

end LibrarySymbol

namespace Library

open Ty (int32 int64 single double)

/-! ### Truth values and characters -/

def boolean : LibrarySymbol where
  name := "Boolean"
  aliases := ["bool"]
  target? := some .boolean
  members :=
    [.constant "TrueString" .string (.string "True"),
     .constant "FalseString" .string (.string "False"),
     .single "Parse" [.string] .boolean .parseBoolean]
  summary := "True or false"

def char : LibrarySymbol :=
  let test (name : String) (t : CharTest) := Member.single name [.char] .boolean (.charTest t)
  { name := "Char"
    aliases := ["char"]
    target? := some .char
    members :=
      [.constant "MinValue" .char (.char (Char.ofNat 0)),
       .constant "MaxValue" .char (.char (Char.ofNat 0xFFFF)),
       test "IsDigit" .digit, test "IsLetter" .letter, test "IsWhiteSpace" .whiteSpace,
       test "IsUpper" .upper, test "IsLower" .lower]
    summary := "A single character" }

/-! ### Numbers -/

/-- The short name of a kind. -/
def shortName : NumericKind → String
  | .char => "char"
  | .word .sbyte => "sbyte"
  | .word .byte => "byte"
  | .word .int16 => "short"
  | .word .uint16 => "ushort"
  | .word .int32 => "int"
  | .word .uint32 => "uint"
  | .word .int64 => "long"
  | .word .uint64 => "ulong"
  | .single => "float"
  | .double => "double"
  | .decimal => "decimal"

def wordSummary (k : WordKind) : String :=
  (if k.signed then "Signed " else "Unsigned ") ++ String.ofList (Text.digits k.bits) ++
    "-bit integer"

def numericSummary : NumericKind → String
  | .char => char.summary
  | .word k => wordSummary k
  | .single => "Single-precision floating point"
  | .double => "Double-precision floating point"
  | .decimal => "128-bit decimal"

/-- The least and the greatest finite number of a kind. -/
def limits : NumericKind → Number × Number
  | .char => (.char (Char.ofNat 0), .char (Char.ofNat 0xFFFF))
  | .word k => (.word k (.wrap k k.min), .word k (.wrap k k.max))
  | .single => (.single (Float32.ofBits 0xFF7FFFFF), .single (Float32.ofBits 0x7F7FFFFF))
  | .double =>
    (.double (Float.ofBits 0xFFEFFFFFFFFFFFFF), .double (Float.ofBits 0x7FEFFFFFFFFFFFFF))
  | .decimal => (.decimal Decimal.largest.neg, .decimal .largest)

/-- The constants that only one kind has. -/
def specialConstants : NumericKind → List (String × Number)
  | .single =>
    [("Epsilon", .single (Float32.ofBits 1)), ("NaN", .single (0.0 / 0.0)),
     ("PositiveInfinity", .single (1.0 / 0.0)), ("NegativeInfinity", .single (-1.0 / 0.0))]
  | .double =>
    [("Epsilon", .double (Float.ofBits 1)), ("NaN", .double (0.0 / 0.0)),
     ("PositiveInfinity", .double (1.0 / 0.0)), ("NegativeInfinity", .double (-1.0 / 0.0))]
  | .decimal =>
    [("Zero", .decimal .zero), ("One", .decimal .one), ("MinusOne", .decimal Decimal.one.neg)]
  | .char | .word _ => []

def numeric (k : NumericKind) : LibrarySymbol :=
  let constant (name : String) (n : Number) := Member.constant name (.numeric k) (.number n)
  { name := k.name
    aliases := [shortName k]
    target? := some (.numeric k)
    members :=
      [constant "MinValue" (limits k).1, constant "MaxValue" (limits k).2,
       .single "Parse" [.string] (.numeric k) (.parseNumber k)] ++
      (specialConstants k).map fun (name, n) => constant name n
    summary := numericSummary k }

/-- The kinds of numbers proper. -/
def numberKinds : List NumericKind :=
  NumericKind.all.filter (· != .char)

/-! ### Strings and objects -/

def string : LibrarySymbol where
  name := "String"
  aliases := ["string"]
  target? := some .string
  members :=
    [.constant "Empty" .string (.string ""),
     .single "IsNullOrEmpty" [.string] .boolean .isNullOrEmpty,
     .single "IsNullOrWhiteSpace" [.string] .boolean .isNullOrWhiteSpace,
     .method "Concat"
       [⟨[.string, .string], .string, .concat⟩, ⟨[.string, .string, .string], .string, .concat⟩,
        ⟨[.object, .object], .string, .concat⟩, ⟨[.object, .object, .object], .string, .concat⟩]]
  summary := "Text; null when absent"

def object : LibrarySymbol where
  name := "Object"
  aliases := ["object"]
  target? := some .object
  members := []
  summary := "Any value, boxed"

/-! ### Dates and spans -/

/-- The last instant of year 9999 that has a tick. -/
def lastDate : Time.DateTime :=
  Time.DateTime.epoch.add (.ofTicks Time.DateTime.maxTicks)

/-- January 1 of year 1970. -/
def unixEpoch : Time.DateTime :=
  .midnight 719162

def dateTime : LibrarySymbol where
  name := "DateTime"
  aliases := []
  target? := some .dateTime
  members :=
    [.constant "MinValue" .dateTime (.dateTime .epoch),
     .constant "MaxValue" .dateTime (.dateTime lastDate),
     .constant "UnixEpoch" .dateTime (.dateTime unixEpoch),
     .single "DaysInMonth" [int32, int32] int32 .daysInMonth,
     .single "IsLeapYear" [int32] .boolean .isLeapYear]
  summary := "A calendar date and time of day"

def dateTimeOffset : LibrarySymbol :=
  let constant (name : String) (t : Time.DateTime) :=
    Member.constant name .dateTimeOffset (.dateTimeOffset ⟨t, 0⟩)
  { name := "DateTimeOffset"
    aliases := []
    target? := some .dateTimeOffset
    members :=
      [constant "MinValue" .epoch, constant "MaxValue" lastDate, constant "UnixEpoch" unixEpoch]
    summary := "A date and time with an offset from UTC" }

def timeSpan : LibrarySymbol :=
  let span (name : String) (ticks : Int) :=
    Member.constant name .timeSpan (.timeSpan (.ofTicks ticks))
  let count (name : String) (n : Int) := Member.constant name int64 (.int64 (.wrap .int64 n))
  let fromUnit (name : String) (unit : TimeUnit) :=
    Member.single name [double] .timeSpan (.spanFrom unit)
  { name := "TimeSpan"
    aliases := []
    target? := some .timeSpan
    members :=
      [span "Zero" 0, span "MinValue" WordKind.int64.min, span "MaxValue" WordKind.int64.max,
       count "TicksPerMillisecond" Time.ticksPerMillisecond,
       count "TicksPerSecond" Time.ticksPerSecond, count "TicksPerMinute" Time.ticksPerMinute,
       count "TicksPerHour" Time.ticksPerHour, count "TicksPerDay" Time.ticksPerDay,
       fromUnit "FromDays" .days, fromUnit "FromHours" .hours, fromUnit "FromMinutes" .minutes,
       fromUnit "FromSeconds" .seconds, fromUnit "FromMilliseconds" .milliseconds,
       .single "FromTicks" [int64] .timeSpan .spanFromTicks]
    summary := "A signed time interval measured in 100-nanosecond ticks" }

def guid : LibrarySymbol where
  name := "Guid"
  aliases := []
  target? := some .guid
  members := [.constant "Empty" .guid (.guid .zero), .single "Parse" [.string] .guid .parseGuid]
  summary := "A 128-bit globally unique identifier"

def dayOfWeek : LibrarySymbol where
  name := "DayOfWeek"
  aliases := []
  target? := some .dayOfWeek
  members := DayOfWeek.members.map fun (name, n) => .constant name .dayOfWeek (.dayOfWeek n)
  summary := "Day of the week, Sunday (0) through Saturday (6)"

/-! ### Classes -/

def math : LibrarySymbol :=
  let signed : List Ty := (numberKinds.filter (·.signed)).map .numeric
  let real : List Ty := [double, .decimal]
  let each (types : List Ty) (b : Builtin) : List Signature := types.map fun t => ⟨[t], t, b⟩
  let binary (name : String) (b : Builtin) :=
    Member.method name (numberKinds.map fun k => ⟨[.numeric k, .numeric k], .numeric k, b⟩)
  let function (name : String) (f : MathFunction) := Member.single name [double] double (.math f)
  { name := "Math"
    aliases := []
    target? := none
    members :=
      [.constant "PI" double (.double 3.141592653589793),
       .constant "E" double (.double 2.718281828459045),
       .constant "Tau" double (.double 6.283185307179586),
       .method "Abs" (each signed .abs),
       .method "Sign" (signed.map fun t => ⟨[t], int32, .sign⟩),
       function "Sqrt" .sqrt, function "Exp" .exp, function "Log" .log, function "Log10" .log10,
       function "Sin" .sin, function "Cos" .cos, function "Tan" .tan,
       .single "Pow" [double, double] double .pow,
       .single "Atan2" [double, double] double .atan2,
       .method "Floor" (each real .floor),
       .method "Ceiling" (each real .ceiling),
       .method "Truncate" (each real .truncate),
       .method "Round" (each real .round ++ real.map fun t => ⟨[t, int32], t, .round⟩),
       binary "Max" .max, binary "Min" .min]
    summary := "Constants and common mathematical functions" }

def convert : LibrarySymbol :=
  let sources : List Ty := .boolean :: NumericKind.all.map .numeric ++ [.string, .object]
  let conversion (name : String) (result : Ty) (target : ConvertTarget) :=
    Member.method name (sources.map fun t => ⟨[t], result, .convert target⟩)
  { name := "Convert"
    aliases := []
    target? := none
    members :=
      conversion "ToBoolean" .boolean .boolean ::
        NumericKind.all.map (fun k => conversion ("To" ++ k.name) (.numeric k) (.numeric k)) ++
        [conversion "ToString" .string .string]
    summary := "Checked conversions between base types; overflow is a fault" }

def regex : LibrarySymbol where
  name := "Regex"
  aliases := []
  target? := none
  members :=
    [.single "IsMatch" [.string, .string] .boolean .regexIsMatch,
     .single "Replace" [.string, .string, .string] .string .regexReplace]
  summary := "Regular expression matching and replacement"

/-! ### The library -/

/-- All types and classes in their order of presentation. -/
def standard : List LibrarySymbol :=
  [boolean, char] ++ numberKinds.map numeric ++
    [string, object, dateTime, dateTimeOffset, timeSpan, guid, dayOfWeek, math, convert, regex]

end Library

end Elementwise
