import Elementwise.Eval.Conversion
import Elementwise.Eval.Dates
import Elementwise.Eval.Mathematics
import Elementwise.Eval.Strings
import Elementwise.Regex.Parser
import Elementwise.Regex.Replacement

/-!
Evaluation of library functions on arguments that have been converted to the parameter types of the
overload that was chosen.
-/

namespace Elementwise.Eval

open Number (WordKind)

/-- The regular expression of a call: the one given, or else the one that its argument spells. -/
def pattern (given : Option Regex) (args : List Value) : Except Fault Regex := do
  let text ← stringArgument args 1
  match given with
  | some r => .ok r
  | none =>
    match Regex.compile? (String.ofList text) with
    | some r => .ok r
    | none => .error .invalidPattern

/-- The receiver of a member that dates with an offset have. -/
def offsetDate (args : List Value) : Except Fault Time.OffsetDateTime := do
  match ← argument args 0 with
  | .dateTimeOffset t => .ok t
  | v => .error (.unexpected v "DateTimeOffset member")

def byteValue (b : Nat) : Value :=
  .number (.word .byte (.wrap .byte b))

/-- Evaluates a function whose receiver, if it has one, is not `null`. -/
def invokeNonNull (b : Builtin) (args : List Value) (given : Option Regex) : Outcome := do
  match b with
  | .toText => .ok (.string (← argument args 0).text)
  | .hasValue => .ok (.boolean !(← argument args 0).isNull)
  | .nullableValue =>
    match ← argument args 0 with
    | .null => .error .nullValue
    | v => .ok v
  | .getValueOrDefault =>
    match ← argument args 0 with
    | .null => argument args 1
    | v => .ok v
  | .parseBoolean => toBoolean (ofChars (← stringArgument args 0))
  | .parseNumber k => parse (String.ofList (← stringArgument args 0)) k
  | .parseGuid =>
    let text ← stringArgument args 0
    match Guid.parse? (Text.trim text) with
    | some g => .ok (.guid g)
    | none => .error (.invalidFormat (String.ofList text) Ty.guid.name)
  | .charTest test =>
    match ← argument args 0 with
    | .number (.char c) => .ok (.boolean (charTest test c))
    | v => .error (.unexpected v "Char test")
  | .isNullOrEmpty =>
    match ← argument args 0 with
    | .string s => .ok (.boolean s.isEmpty)
    | _ => .ok (.boolean true)
  | .isNullOrWhiteSpace =>
    match ← argument args 0 with
    | .string s => .ok (.boolean (s.toList.all Text.isSpace))
    | _ => .ok (.boolean true)
  | .concat => .ok (.string (String.join (args.map Value.text)))
  | .stringLength => .ok (.count (← stringArgument args 0).length)
  | .toUpper => .ok (ofChars (Text.upper (← stringArgument args 0)))
  | .toLower => .ok (ofChars (Text.lower (← stringArgument args 0)))
  | .trim => .ok (ofChars (Text.trim (← stringArgument args 0)))
  | .contains => containsArgument (← stringArgument args 0) args
  | .startsWith =>
    let cs ← stringArgument args 0
    .ok (.boolean ((← stringArgument args 1).isPrefixOf cs))
  | .endsWith =>
    let cs ← stringArgument args 0
    .ok (.boolean ((← stringArgument args 1).isSuffixOf cs))
  | .substring =>
    let length ← optionalInt32 args 2
    let cs ← stringArgument args 0
    let start ← int32Argument args 1
    (substring cs start.val (length.map (·.val))).map ofChars
  | .indexOf =>
    let cs ← stringArgument args 0
    .ok (position cs (← needle (← argument args 1) "IndexOf"))
  | .replace =>
    let cs ← stringArgument args 0
    let old ← argument args 1
    (replace cs old (← argument args 2)).map ofChars
  | .arrayLength =>
    match ← argument args 0 with
    | .array items => .ok (.count items.length)
    | v => .error (.unexpected v "Length")
  | .daysInMonth =>
    let year ← int32Argument args 0
    daysInMonth year.val (← int32Argument args 1).val
  | .isLeapYear => .ok (.boolean (Time.isLeapYear (← validYear (← int32Argument args 0).val)))
  | .datePart part => .ok (datePart part (← clockArgument args 0))
  | .dayOfWeek => .ok (.dayOfWeek (DayOfWeek.ofDay (← clockArgument args 0).day))
  | .date => .ok (.dateTime (.midnight (← clockArgument args 0).day))
  | .timeOfDay => .ok (.timeSpan (← clockArgument args 0).timeOfDay)
  | .addTime unit =>
    let s ← spanOf (← doubleArgument args 1) unit
    addToDate (← argument args 0) s
  | .addTicks =>
    let receiver ← argument args 0
    addToDate receiver (.ofTicks (← int64Argument args 1).val)
  | .offset => .ok (.timeSpan (.ofSeconds (← offsetDate args).offset))
  | .localDateTime => .ok (.dateTime (← offsetDate args).clock)
  | .utcDateTime => .ok (.dateTime (← offsetDate args).utc)
  | .utcTicks => .ok (.int64 (.wrap .int64 (← offsetDate args).utc.ticks))
  | .spanPart part => .ok (spanPart part (← spanArgument args 0))
  | .spanTotal unit => .ok (spanTotal unit (← spanArgument args 0))
  | .spanFrom unit => .ok (.timeSpan (← spanOf (← doubleArgument args 0) unit))
  | .spanFromTicks => .ok (.timeSpan (.ofTicks (← int64Argument args 0).val))
  | .toByteArray =>
    match ← argument args 0 with
    | .guid g => .ok (.array (g.mixedBytes.map byteValue))
    | v => .error (.unexpected v "ToByteArray")
  | .math f => .ok (.double (mathFunction f (← doubleArgument args 0)))
  | .abs => abs (← argument args 0)
  | .sign => sign (← argument args 0)
  | .floor => toIntegral .down Decimal.floor? (← argument args 0)
  | .ceiling => toIntegral .up Decimal.ceiling? (← argument args 0)
  | .truncate => toIntegral .toZero (some ·.truncate) (← argument args 0)
  | .round =>
    let digits ← optionalInt32 args 1
    round (← argument args 0) ((digits.map (·.val)).getD 0)
  | .pow =>
    let base ← doubleArgument args 0
    .ok (.double (base.pow (← doubleArgument args 1)))
  | .atan2 =>
    let y ← doubleArgument args 0
    .ok (.double (y.atan2 (← doubleArgument args 1)))
  | .max =>
    let left ← argument args 0
    maxOrMin left (← argument args 1) true
  | .min =>
    let left ← argument args 0
    maxOrMin left (← argument args 1) false
  | .convert .boolean => toBoolean (← argument args 0)
  | .convert (.numeric k) => convert (← argument args 0) k
  | .convert .string => .ok (.string (← argument args 0).text)
  | .regexIsMatch =>
    let r ← pattern given args
    .ok (.boolean (r.isMatch (← stringArgument args 0)))
  | .regexReplace =>
    let r ← pattern given args
    let cs ← stringArgument args 0
    .ok (ofChars (r.replaceAll (← stringArgument args 2) cs))

/-- Evaluates a library function; `given` is the regular expression of the call if it has been
compiled before. -/
def invoke (b : Builtin) (args : List Value) (given : Option Regex) : Outcome :=
  if b.hasReceiver then do
    match ← argument args 0 with
    | .null => .error (.nullReference b.memberName)
    | _ => invokeNonNull b args given
  else invokeNonNull b args given

end Elementwise.Eval
