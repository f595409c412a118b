import Elementwise.Value.Text

/-!
The faults that evaluating an expression can end in.  A fault concerns one element; the expression
stays usable for the next.
-/

namespace Elementwise

open Text (integer digits)

/-- What is wrong with an argument of a library member. -/
inductive ArgumentFault where
  | null (position : Nat)
  | notANumberInterval
  | year (n : Int)
  | month (n : Int)
  | emptyReplacement
  | notANumberSign
  | roundingDigits (limit : Nat)
  deriving DecidableEq

inductive Fault where
  | overflow (value target : String)
  | divisionByZero
  | nullReference (member : String)
  | nullValue
  | indexOutOfRange (index : Int) (length : Nat)
  | emptySequence (method : String)
  | invalidFormat (input target : String)
  | invalidCast (found target : String)
  | invalidArgument (problem : ArgumentFault)
  | invalidPattern
  | inputType (expected found : String)
  | internal (reason : String)
  deriving DecidableEq

def showInt (n : Int) : String :=
  String.ofList (integer n)

def showNat (n : Nat) : String :=
  String.ofList (digits n)

def ArgumentFault.message : ArgumentFault → String
  | null position => "argument " ++ showNat position ++ " must not be null"
  | notANumberInterval => "a time interval cannot be NaN"
  | year n => "year " ++ showInt n ++ " is outside 1 through 9999"
  | month n => "month " ++ showInt n ++ " is outside 1 through 12"
  | emptyReplacement => "the string to replace cannot be empty"
  | notANumberSign => "the sign of NaN is undefined"
  | roundingDigits limit => "rounding digits must be between 0 and " ++ showNat limit

namespace Fault

def message : Fault → String
  | overflow value target => "value " ++ value ++ " does not fit in " ++ target
  | divisionByZero => "division by zero"
  | nullReference member => "'" ++ member ++ "' was accessed on a null reference"
  | nullValue => "nullable value has no value"
  | indexOutOfRange index length =>
    "index " ++ showInt index ++ " is out of range for length " ++ showNat length
  | emptySequence method => method ++ " found no matching element"
  | invalidFormat input target => "'" ++ input ++ "' is not a valid " ++ target
  | invalidCast found target => "cannot convert " ++ found ++ " to " ++ target
  | invalidArgument problem => "invalid argument: " ++ problem.message
  | invalidPattern => "invalid regular expression"
  | inputType expected found => "input does not conform to " ++ expected ++ ": found " ++ found
  | internal reason => "internal evaluation error: " ++ reason

/-- A value of a form that the place cannot hold in a well-typed expression. -/
def unexpected (v : Value) (place : String) : Fault :=
  internal ("unexpected " ++ v.kindName ++ " in " ++ place)

def castOf (v : Value) (target : String) : Fault :=
  invalidCast v.kindName target

end Fault

/-- The outcome of evaluating an expression on one element. -/
abbrev Outcome := Except Fault Value

end Elementwise
