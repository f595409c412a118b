import Elementwise.Eval.Arguments
import Elementwise.Library.Builtin
import Elementwise.Text.Search

/-!
The members of strings and characters.  Positions and lengths count characters.
-/

namespace Elementwise.Eval

open Number (Word WordKind)

/-- A list of characters as a value. -/
def ofChars (cs : List Char) : Value :=
  .string (String.ofList cs)

/-- Digits are the numbers that are no letters at the same time. -/
def charTest (test : CharTest) (c : Char) : Bool :=
  match test with
  | .digit => Text.isNumber c && !Text.isLetter c
  | .letter => Text.isLetter c
  | .whiteSpace => Text.isSpace c
  | .upper => Text.isUppercase c
  | .lower => Text.isLowercase c

def outOfRange (index : Int) (cs : List Char) : Fault :=
  .indexOutOfRange index cs.length

/-- The sum of a position and a length, brought to the nearest 32-bit integer. -/
def clampedEnd (start length : Int) : Int :=
  max WordKind.int32.min (min WordKind.int32.max (start + length))

/-- The part of a string from a position, of the given length or up to the end. -/
def substring (cs : List Char) (start : Int) (length : Option Int) : Except Fault (List Char) :=
  if start < 0 ∨ cs.length < start then .error (outOfRange start cs)
  else
    match length with
    | none => .ok (cs.drop start.toNat)
    | some n =>
      if n < 0 ∨ cs.length < start + n then .error (outOfRange (clampedEnd start n) cs)
      else .ok ((cs.drop start.toNat).take n.toNat)

/-- What a search may look for. -/
def needle (v : Value) (place : String) : Except Fault (List Char) :=
  match v with
  | .string s => .ok s.toList
  | .char c => .ok [c]
  | .null => .error (nullArgument 1)
  | v => .error (.unexpected v place)

/-- The position of the first occurrence, or minus one. -/
def position (cs sought : List Char) : Value :=
  match Text.indexOf? sought cs with
  | some i => .count i
  | none => .int32 (.wrap .int32 (-1))

/-- Replaces all occurrences of a character or of a non-empty string; `null` stands for nothing. -/
def replace (cs : List Char) (old new : Value) : Except Fault (List Char) :=
  match old, new with
  | .char c, .char d => .ok (Text.replaceAll [c] [d] cs)
  | .string s, new =>
    if s.isEmpty then .error (.invalidArgument .emptyReplacement)
    else
      match new with
      | .string t => .ok (Text.replaceAll s.toList t.toList cs)
      | .null => .ok (Text.replaceAll s.toList [] cs)
      | _ => .error (.unexpected old "Replace")
  | .null, _ => .error (nullArgument 1)
  | old, _ => .error (.unexpected old "Replace")

/-- Whether a string contains a character or another string. -/
def containsArgument (cs : List Char) (args : List Value) : Outcome := do
  match ← argument args 1 with
  | .number (.char c) => .ok (.boolean (cs.contains c))
  | _ => .ok (.boolean (Text.contains (← stringArgument args 1) cs))

end Elementwise.Eval
