import Elementwise.Value.Text
import Elementwise.Decimal.Binary
import Elementwise.Json.Basic

/-!
Values as JSON.  Numbers stay numbers, integral ones below `2 ^ 53` without a fraction, except that
floating point numbers that are not finite become text; records become objects, and whatever JSON
has no form for becomes its text.
-/

namespace Elementwise.Value

open Number

/-- The bound below which an integral floating point number is written as an integer. -/
def integralBound : Nat :=
  Nat.pow 2 53

/-- A floating point number as JSON; `text` stands for it if it is not finite. -/
def floatJson (x : Float) (text : String) : Json :=
  let b := Binary.ofFloat x
  match b.round? .toZero with
  | none => .string text
  | some n =>
    if b.isIntegral ∧ n.natAbs < integralBound then .number (.integer n) else .number (.real x)

def numberJson (n : Number) : Json :=
  match n with
  | .char c => .string c.toString
  | .word _ w => .number (.integer w.val)
  | .single x => floatJson (widen x) n.text
  | .double x => floatJson x n.text
  | .decimal d => floatJson d.toFloat n.text

mutual

def json : Value → Json
  | null => .null
  | boolean b => .bool b
  | number n => numberJson n
  | string s => .string s
  | dateTime t => .string (String.ofList t.json)
  | dateTimeOffset t => .string (String.ofList t.json)
  | array items => .array (jsons items)
  | record fields values => .ofMembers (memberJsons fields values)
  | timeSpan s => .string (timeSpan s).text
  | guid g => .string (guid g).text
  | dayOfWeek n => .string (dayOfWeek n).text

def jsons : List Value → List Json
  | [] => []
  | v :: vs => json v :: jsons vs

def memberJsons : List (String × Ty) → List Value → List (String × Json)
  | (name, _) :: fields, v :: vs => (name, json v) :: memberJsons fields vs
  | _, _ => []

end

end Elementwise.Value
