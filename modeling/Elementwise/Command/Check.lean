import Elementwise.Command.Error
import Elementwise.Json.Printer
import Elementwise.Json.Reader
import Elementwise.Value.Json

/-!
Evaluating an expression on one element, which is given as JSON.
-/

namespace Elementwise.Command

/-- The type with a name in the standard library. -/
def typeNamed (name : String) : Except CommandError Ty :=
  match Catalog.standard.resolveType name with
  | some t => .ok t
  | none => .error (.unknownType name)

/-- A stage on the standard library for inputs of the named type. -/
def buildStage (expression inputType : String) : Except CommandError Stage := do
  let input ← typeNamed inputType
  (Stage.build Catalog.standard expression input).mapError .build

/-- Reads a JSON text as an element of the type. -/
def readElement (t : Ty) (text : String) : Except CommandError Value :=
  match Json.parse? text with
  | some j => (Value.decode t j).mapError .decode
  | none => .error .json

/-- The image of the element that a JSON text denotes. -/
def evaluateText (s : Stage) (text : String) : Except CommandError Value := do
  let element ← readElement s.input text
  (s.process element).mapError .fault

/-- The type and the value of an expression on the element that a JSON text denotes. -/
def check (expression inputType : String) (input : Option String) :
    Except CommandError (Ty × Value) := do
  let s ← buildStage expression inputType
  match input with
  | some text => (evaluateText s text).map (s.output, ·)
  | none => .error .noInput

/-- Whether a text spells an expression, whatever its type. -/
def checkSyntax (expression : String) : Except CommandError Unit :=
  match Expr.parse expression with
  | .ok _ => .ok ()
  | .error cause => .error (.build ⟨expression, cause⟩)

end Elementwise.Command
