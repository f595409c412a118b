import Elementwise.Eval.Term
import Elementwise.Expr.Parser
import Elementwise.Typing.Binding

/-!
Stages: expressions that are built once for an input type, and then map elements of that type one by
one.
-/

namespace Elementwise

/-- Why a text is no expression on inputs of a type, by the phase that finds it. -/
inductive BuildCause where
  | lexical (e : LexError)
  | syntactic (e : SyntaxError)
  | typing (e : TypeError)
  deriving DecidableEq

def BuildCause.message : BuildCause → String
  | lexical e => "lexical error: " ++ e.message
  | syntactic e => "syntax error: " ++ e.message
  | typing e => "type error: " ++ e.message

structure BuildError where
  expression : String
  cause : BuildCause
  deriving DecidableEq

def BuildError.message (e : BuildError) : String :=
  "cannot build expression '" ++ e.expression ++ "': " ++ e.cause.message

/-- The expression that a text spells. -/
def Expr.parse (text : String) : Except BuildCause Expr := do
  let lexed := Token.scan text
  let stop ← lexed.outcome.mapError .lexical
  (Expr.ofTokens lexed.tokens stop).mapError .syntactic

/-- The typed expression that a text spells for inputs of a type. -/
def Term.parse (catalog : Catalog) (text : String) (input : Ty) : Except BuildCause Term := do
  let e ← Expr.parse text
  (Typing.bindInput catalog e input).mapError .typing

/-- A typed expression together with the type of its inputs. -/
structure Stage where
  input : Ty
  term : Term

namespace Stage

/-- Builds a stage; the literal `null` by itself is an object. -/
def build (catalog : Catalog) (text : String) (input : Ty) : Except BuildError Stage :=
  match Term.parse catalog text input with
  | .ok t => .ok ⟨input, if t.isNullLiteral then t.coerce .nullLiteral .object else t⟩
  | .error cause => .error ⟨text, cause⟩

def output (s : Stage) : Ty :=
  s.term.ty

/-- Evaluates the expression on an element, whatever its type. -/
def run (s : Stage) (element : Value) : Outcome :=
  Eval.evaluate s.term [element]

/-- Maps one element, which has to conform to the input type. -/
def process (s : Stage) (element : Value) : Outcome :=
  if element.conformsTo s.input then s.run element
  else .error (.inputType s.input.name element.kindName)

end Stage

end Elementwise
