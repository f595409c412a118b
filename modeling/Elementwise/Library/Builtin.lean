import Elementwise.Number.Kind

/-!
The functions behind the members of library types and of values.  A member is bound to one of them
together with the types of its parameters; members of values take the value as first argument.
-/

namespace Elementwise

open Number (NumericKind)

inductive CharTest where
  | digit | letter | whiteSpace | upper | lower
  deriving DecidableEq

inductive DatePart where
  | year | month | day | hour | minute | second | millisecond | dayOfYear | ticks
  deriving DecidableEq

inductive SpanPart where
  | days | hours | minutes | seconds | milliseconds | ticks
  deriving DecidableEq

inductive TimeUnit where
  | days | hours | minutes | seconds | milliseconds
  deriving DecidableEq

/-- The functions of one double. -/
inductive MathFunction where
  | sqrt | exp | log | log10 | sin | cos | tan
  deriving DecidableEq

/-- The types that checked conversions lead to. -/
inductive ConvertTarget where
  | boolean
  | numeric (k : NumericKind)
  | string
  deriving DecidableEq

inductive Builtin where
  | toText
  -- nullable values
  | hasValue | nullableValue | getValueOrDefault
  -- reading
  | parseBoolean | parseNumber (k : NumericKind) | parseGuid
  -- characters
  | charTest (test : CharTest)
  -- strings
  | isNullOrEmpty | isNullOrWhiteSpace | concat | stringLength | toUpper | toLower | trim
  | contains | startsWith | endsWith | substring | indexOf | replace
  -- arrays
  | arrayLength
  -- dates
  | daysInMonth | isLeapYear | datePart (part : DatePart) | dayOfWeek | date | timeOfDay
  | addTime (unit : TimeUnit) | addTicks | offset | localDateTime | utcDateTime | utcTicks
  -- spans
  | spanPart (part : SpanPart) | spanTotal (unit : TimeUnit) | spanFrom (unit : TimeUnit)
  | spanFromTicks
  -- identifiers
  | toByteArray
  -- mathematics
  | math (f : MathFunction) | abs | sign | floor | ceiling | truncate | round | pow | atan2
  | max | min
  -- conversions
  | convert (target : ConvertTarget)
  -- regular expressions
  | regexIsMatch | regexReplace
  deriving DecidableEq

/-! ### Names -/

def CharTest.name : CharTest → String
  | digit => "Digit"
  | letter => "Letter"
  | whiteSpace => "WhiteSpace"
  | upper => "Upper"
  | lower => "Lower"

def DatePart.name : DatePart → String
  | year => "Year"
  | month => "Month"
  | day => "Day"
  | hour => "Hour"
  | minute => "Minute"
  | second => "Second"
  | millisecond => "Millisecond"
  | dayOfYear => "DayOfYear"
  | ticks => "Ticks"

def SpanPart.name : SpanPart → String
  | days => "Days"
  | hours => "Hours"
  | minutes => "Minutes"
  | seconds => "Seconds"
  | milliseconds => "Milliseconds"
  | ticks => "Ticks"

def TimeUnit.name : TimeUnit → String
  | days => "Days"
  | hours => "Hours"
  | minutes => "Minutes"
  | seconds => "Seconds"
  | milliseconds => "Milliseconds"

def MathFunction.name : MathFunction → String
  | sqrt => "Sqrt"
  | exp => "Exp"
  | log => "Log"
  | log10 => "Log10"
  | sin => "Sin"
  | cos => "Cos"
  | tan => "Tan"

def ConvertTarget.name : ConvertTarget → String
  | boolean => "Boolean"
  | numeric k => "Numeric(" ++ k.name ++ ")"
  | string => "String"

namespace Builtin

/-- The name of a function, with the variant in parentheses where it has one. -/
def name : Builtin → String
  | toText => "ToString"
  | hasValue => "HasValue"
  | nullableValue => "NullableValue"
  | getValueOrDefault => "GetValueOrDefault"
  | parseBoolean => "ParseBoolean"
  | parseNumber k => "ParseNumber(" ++ k.name ++ ")"
  | parseGuid => "ParseGuid"
  | charTest test => "CharTest(" ++ test.name ++ ")"
  | isNullOrEmpty => "IsNullOrEmpty"
  | isNullOrWhiteSpace => "IsNullOrWhiteSpace"
  | concat => "Concat"
  | stringLength => "StringLength"
  | toUpper => "ToUpper"
  | toLower => "ToLower"
  | trim => "Trim"
  | contains => "Contains"
  | startsWith => "StartsWith"
  | endsWith => "EndsWith"
  | substring => "Substring"
  | indexOf => "IndexOf"
  | replace => "Replace"
  | arrayLength => "ArrayLength"
  | daysInMonth => "DaysInMonth"
  | isLeapYear => "IsLeapYear"
  | datePart part => "DatePart(" ++ part.name ++ ")"
  | dayOfWeek => "DayOfWeek"
  | date => "Date"
  | timeOfDay => "TimeOfDay"
  | addTime unit => "AddTime(" ++ unit.name ++ ")"
  | addTicks => "AddTicks"
  | offset => "Offset"
  | localDateTime => "LocalDateTime"
  | utcDateTime => "UtcDateTime"
  | utcTicks => "UtcTicks"
  | spanPart part => "SpanPart(" ++ part.name ++ ")"
  | spanTotal unit => "SpanTotal(" ++ unit.name ++ ")"
  | spanFrom unit => "SpanFrom(" ++ unit.name ++ ")"
  | spanFromTicks => "SpanFromTicks"
  | toByteArray => "ToByteArray"
  | math f => "Math(" ++ f.name ++ ")"
  | abs => "Abs"
  | sign => "Sign"
  | floor => "Floor"
  | ceiling => "Ceiling"
  | truncate => "Truncate"
  | round => "Round"
  | pow => "Pow"
  | atan2 => "Atan2"
  | max => "Max"
  | min => "Min"
  | convert target => "Convert(" ++ target.name ++ ")"
  | regexIsMatch => "RegexIsMatch"
  | regexReplace => "RegexReplace"

/-- The member that a message names when it was reached through `null`. -/
def memberName : Builtin → String
  | stringLength | arrayLength => "Length"
  | datePart part => part.name
  | spanPart part => part.name
  | spanTotal unit => "Total" ++ unit.name
  | addTime unit => "Add" ++ unit.name
  | b => b.name

/-! ### Classification -/

/-- Whether the first argument is a receiver that must not be `null`. -/
def hasReceiver : Builtin → Bool
  | stringLength | toUpper | toLower | trim | contains | startsWith | endsWith | substring
  | indexOf | replace | arrayLength | datePart _ | dayOfWeek | date | timeOfDay | addTime _
  | addTicks | offset | localDateTime | utcDateTime | utcTicks | spanPart _ | spanTotal _
  | toByteArray => true
  | _ => false

/-- Whether the second argument is a regular expression. -/
def takesPattern : Builtin → Bool
  | regexIsMatch | regexReplace => true
  | _ => false

end Builtin

end Elementwise
