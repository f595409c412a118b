import Elementwise.Regex.Matching
import Elementwise.Text.Numeral

/-!
Replacing the matches of a pattern.  In the replacement, `$` and the longest name after it, or a
name in braces, stands for what that group matched, and `$$` for a dollar sign; a group that took no
part or does not exist stands for nothing.
-/

namespace Elementwise.Regex

/-- A part of a replacement. -/
inductive Part where
  | char (c : Char)
  | group (name : List Char)

def isNameChar (c : Char) : Bool :=
  Text.isAscii c && (Text.isLetter c || Text.isAsciiDigit c || c = '_')

/-- Reads the reference after a dollar sign. -/
def reference? : List Char → Option (List Char × List Char)
  | '\x7b' :: cs =>
    match cs.dropWhile (· != '\x7d') with
    | _ :: rest => some (cs.takeWhile (· != '\x7d'), rest)
    | [] => none
  | cs =>
    let name := cs.takeWhile isNameChar
    if name.isEmpty then none else some (name, cs.dropWhile isNameChar)

/-- The parts of a replacement; `fuel` bounds their number. -/
def partsOf : (fuel : Nat) → List Char → List Part
  | 0, _ => []
  | _, [] => []
  | fuel + 1, '$' :: '$' :: cs => .char '$' :: partsOf fuel cs
  | fuel + 1, '$' :: cs =>
    match reference? cs with
    | some (name, cs) => .group name :: partsOf fuel cs
    | none => .char '$' :: partsOf fuel cs
  | fuel + 1, c :: cs => .char c :: partsOf fuel cs

def parts (replacement : List Char) : List Part :=
  partsOf replacement.length replacement

/-- The index that a reference names: a number stands for itself, with or without a plus sign. -/
def indexOf? (r : Regex) (name : List Char) : Option Nat :=
  let ds := match name with
    | '+' :: ds => ds
    | ds => ds
  match Text.natural? ds with
  | some n => some n
  | none => r.names.lookup (String.ofList name)

/-- The text for one match. -/
def expand (r : Regex) (text : List Char) (m : Match) (ps : List Part) : List Char :=
  ps.flatMap fun
    | .char c => [c]
    | .group name =>
      match (r.indexOf? name).bind m.group? with
      | some (start, stop) => (text.drop start).take (stop - start)
      | none => []

/-- The text with its matches replaced; `start` is the end of the last match. -/
def splice (r : Regex) (text : List Char) (ps : List Part) (start : Nat) : List Match → List Char
  | [] => text.drop start
  | m :: ms =>
    (text.drop start).take (m.start - start) ++ r.expand text m ps ++
      splice r text ps m.finish.position ms

def replaceAll (r : Regex) (replacement text : List Char) : List Char :=
  r.splice text (parts replacement) 0 (r.allMatches text)

end Elementwise.Regex
