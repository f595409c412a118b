import Elementwise.Ty
import Elementwise.Text.Numeral

/-!
The reasons for which a well-formed expression has no type.
-/

namespace Elementwise

inductive TypeError where
  | unknownIdentifier (name : String) (offset : Nat)
  | unknownMember (member type : String) (offset : Nat)
  | invalidConversion (source target : Ty) (offset : Nat)
  | incompatibleOperands (op : String) (left right : Ty) (offset : Nat)
  | invalidOperand (op : String) (ty : Ty) (offset : Nat)
  | typeMismatch (expected found : Ty) (offset : Nat)
  | notNullable (ty : Ty) (offset : Nat)
  | wrongArity (name : String) (expected : List Nat) (found offset : Nat)
  | noMatchingOverload (name : String) (args : List Ty) (offset : Nat)
  | ambiguousCall (name : String) (args : List Ty) (offset : Nat)
  | duplicateMember (name : String) (offset : Nat)
  | cannotInferElementType (offset : Nat)
  | misplacedLambda (offset : Nat)
  | typeUsedAsValue (name : String) (offset : Nat)
  | methodWithoutCall (name : String) (offset : Nat)
  | notCallable (offset : Nat)
  | notIndexable (ty : Ty) (offset : Nat)
  | invalidPattern (pattern : String) (offset : Nat)
  deriving DecidableEq

namespace TypeError

def offset : TypeError → Nat
  | unknownIdentifier _ offset | unknownMember _ _ offset | invalidConversion _ _ offset
  | incompatibleOperands _ _ _ offset | invalidOperand _ _ offset | typeMismatch _ _ offset
  | notNullable _ offset | wrongArity _ _ _ offset | noMatchingOverload _ _ offset
  | ambiguousCall _ _ offset | duplicateMember _ offset | cannotInferElementType offset
  | misplacedLambda offset | typeUsedAsValue _ offset | methodWithoutCall _ offset
  | notCallable offset | notIndexable _ offset | invalidPattern _ offset => offset

def message (e : TypeError) : String :=
  let nat (n : Nat) := String.ofList (Text.digits n)
  let place := " (offset " ++ nat e.offset ++ ")"
  let types (ts : List Ty) := "(" ++ ", ".intercalate (ts.map Ty.name) ++ ")"
  match e with
  | unknownIdentifier name offset =>
    "unknown identifier '" ++ name ++ "' at offset " ++ nat offset
  | unknownMember member type _ =>
    "'" ++ type ++ "' has no member named '" ++ member ++ "'" ++ place
  | invalidConversion source target _ =>
    "no conversion from " ++ source.name ++ " to " ++ target.name ++ place
  | incompatibleOperands op left right _ =>
    "operator '" ++ op ++ "' cannot be applied to " ++ left.name ++ " and " ++ right.name ++ place
  | invalidOperand op ty _ => "operator '" ++ op ++ "' cannot be applied to " ++ ty.name ++ place
  | typeMismatch expected found _ =>
    "expected " ++ expected.name ++ " but found " ++ found.name ++ place
  | notNullable ty _ => ty.name ++ " is not nullable" ++ place
  | wrongArity name expected found _ =>
    "'" ++ name ++ "' takes " ++ " or ".intercalate (expected.map nat) ++ " argument(s) but " ++
      nat found ++ " were given" ++ place
  | noMatchingOverload name args _ =>
    "no overload of '" ++ name ++ "' accepts " ++ types args ++ place
  | ambiguousCall name args _ =>
    "call to '" ++ name ++ "' with " ++ types args ++ " is ambiguous" ++ place
  | duplicateMember name _ => "member '" ++ name ++ "' is declared more than once" ++ place
  | cannotInferElementType offset =>
    "cannot infer the element type of the array at offset " ++ nat offset
  | misplacedLambda _ => "a lambda is only allowed as a query operator argument" ++ place
  | typeUsedAsValue name _ => "'" ++ name ++ "' is a type and cannot be used as a value" ++ place
  | methodWithoutCall name _ => "'" ++ name ++ "' is a method and must be called" ++ place
  | notCallable offset => "expression at offset " ++ nat offset ++ " cannot be called"
  | notIndexable ty _ => ty.name ++ " cannot be indexed" ++ place
  | invalidPattern pattern _ => "invalid regular expression '" ++ pattern ++ "'" ++ place

end TypeError

/-- The outcome of typing. -/
abbrev Typed (α : Type) : Type :=
  Except TypeError α

end Elementwise
