import Elementwise.Library.Builtin
import Elementwise.Value.Basic

/-!
Members of library types and of values: constants, properties, and methods with one or more
overloads.
-/

namespace Elementwise

/-- One overload of a method. -/
structure Signature where
  params : List Ty
  result : Ty
  builtin : Builtin

inductive Member where
  /-- a value that is known without evaluation -/
  | constant (name : String) (ty : Ty) (value : Value)
  /-- what is read from a value without parentheses -/
  | property (name : String) (ty : Ty) (builtin : Builtin)
  | method (name : String) (overloads : List Signature)

namespace Member

def name : Member → String
  | constant name _ _ | property name _ _ | method name _ => name

/-- A method without overloads other than one. -/
def single (name : String) (params : List Ty) (result : Ty) (builtin : Builtin) : Member :=
  method name [⟨params, result, builtin⟩]

/-- The member with a name, whose ASCII letters may be spelled in either case. -/
def find? (members : List Member) (name : String) : Option Member :=
  members.find? fun m => Text.sameIgnoringAsciiCase m.name name

end Member

end Elementwise
