import Elementwise.Eval.Fault

/-!
Access to the arguments of a library function, which are there and of the expected form in a
well-typed call.  Where a string is expected, `null` may still come.
-/

namespace Elementwise.Eval

open Number (Word)

def argument (args : List Value) (i : Nat) : Outcome :=
  match args[i]? with
  | some v => .ok v
  | none => .error (.internal ("missing argument " ++ showNat i))

/-- The fault of an argument that is `null`; arguments are counted from 1. -/
def nullArgument (position : Nat) : Fault :=
  .invalidArgument (.null position)

def stringArgument (args : List Value) (i : Nat) : Except Fault (List Char) := do
  match ← argument args i with
  | .string s => .ok s.toList
  | .null => .error (nullArgument (i + 1))
  | v => .error (.unexpected v "string argument")

def int32Argument (args : List Value) (i : Nat) : Except Fault (Word .int32) := do
  match ← argument args i with
  | .number (.word .int32 w) => .ok w
  | v => .error (.unexpected v "Int32 argument")

def int64Argument (args : List Value) (i : Nat) : Except Fault (Word .int64) := do
  match ← argument args i with
  | .number (.word .int64 w) => .ok w
  | v => .error (.unexpected v "Int64 argument")

def doubleArgument (args : List Value) (i : Nat) : Except Fault Float := do
  match ← argument args i with
  | .number (.double x) => .ok x
  | v => .error (.unexpected v "Double argument")

def spanArgument (args : List Value) (i : Nat) : Except Fault Time.Span := do
  match ← argument args i with
  | .timeSpan s => .ok s
  | v => .error (.unexpected v "TimeSpan argument")

/-- The clock reading of a date, with or without an offset. -/
def clockArgument (args : List Value) (i : Nat) : Except Fault Time.DateTime := do
  match ← argument args i with
  | .dateTime t => .ok t
  | .dateTimeOffset t => .ok t.clock
  | v => .error (.unexpected v "date argument")

/-- An argument that may be left out. -/
def optionalInt32 (args : List Value) (i : Nat) : Except Fault (Option (Word .int32)) :=
  if i < args.length then (int32Argument args i).map some else .ok none

end Elementwise.Eval
