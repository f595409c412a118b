import Elementwise.Value.DayOfWeek
import Elementwise.Time.Text

/-!
The text of values, which does not depend on any culture: what conversion to a string and string
concatenation produce.
-/

namespace Elementwise.Value

mutual

def text : Value → String
  | null => ""
  | boolean true => "True"
  | boolean false => "False"
  | number n => n.text
  | string s => s
  | dateTime t => String.ofList t.text
  | dateTimeOffset t => String.ofList t.text
  | timeSpan s => String.ofList s.text
  | guid g => String.ofList g.text
  | dayOfWeek n => (DayOfWeek.name? n).getD (String.ofList (Text.integer n.val))
  | array items => "[" ++ ", ".intercalate (texts items) ++ "]"
  | record fields values =>
    if values.isEmpty then "\x7b \x7d"
    else "\x7b " ++ ", ".intercalate (fieldTexts fields values) ++ " \x7d"

def texts : List Value → List String
  | [] => []
  | v :: vs => text v :: texts vs

/-- The fields that have a value, as name and value. -/
def fieldTexts : List (String × Ty) → List Value → List String
  | (name, _) :: fields, v :: vs => (name ++ " = " ++ text v) :: fieldTexts fields vs
  | _, _ => []

end

end Elementwise.Value
