import Elementwise.Json.Number

/-!
Reading JSON documents.  The grammar is the strict one, a document is read to its end, and arrays
and objects may be nested 127 deep.
-/

namespace Elementwise.Json

open Text

def isBlank (c : Char) : Bool :=
  c = ' ' || c = '\n' || c = '\t' || c = '\r'

def skipBlanks (cs : List Char) : List Char :=
  cs.dropWhile isBlank

/-! ### Strings -/

def hex4? : List Char → Option (Nat × List Char)
  | a :: b :: c :: d :: cs =>
    if [a, b, c, d].all isAsciiHexDigit then some (ofHexDigits [a, b, c, d], cs) else none
  | _ => none

/-- The character of an escape with hexadecimal digits: one outside the basic plane is written as a
pair of surrogates, and no surrogate stands alone. -/
def unicode? (cs : List Char) : Option (Char × List Char) :=
  match hex4? cs with
  | none => none
  | some (n, cs) =>
    if n < 0xD800 ∨ 0xDFFF < n then some (Char.ofNat n, cs)
    else if 0xDBFF < n then none
    else match cs with
      | '\\' :: 'u' :: cs =>
        match hex4? cs with
        | some (m, cs) =>
          if 0xDC00 ≤ m ∧ m ≤ 0xDFFF then
            some (Char.ofNat (0x10000 + (n - 0xD800) * 0x400 + (m - 0xDC00)), cs)
          else none
        | none => none
      | _ => none

/-- Reads one character of a string, or its end. -/
def stringStep? : List Char → Option (Option Char × List Char)
  | [] => none
  | '"' :: cs => some (none, cs)
  | '\\' :: 'u' :: cs => (unicode? cs).map fun (c, cs) => (some c, cs)
  | '\\' :: c :: cs =>
    let plain (c : Char) := some (some c, cs)
    match c with
    | '"' => plain '"'
    | '\\' => plain '\\'
    | '/' => plain '/'
    | 'b' => plain '\x08'
    | 'f' => plain '\x0c'
    | 'n' => plain '\n'
    | 'r' => plain '\r'
    | 't' => plain '\t'
    | _ => none
  | c :: cs => if c = '\\' ∨ c.toNat < 32 then none else some (some c, cs)

/-- Reads a string after its opening quote; `fuel` bounds the number of characters. -/
def stringBody? : (fuel : Nat) → List Char → List Char → Option (String × List Char)
  | 0, _, _ => none
  | fuel + 1, cs, acc =>
    match stringStep? cs with
    | none => none
    | some (none, cs) => some (String.ofList acc.reverse, cs)
    | some (some c, cs) => stringBody? fuel cs (c :: acc)

def string? (cs : List Char) : Option (String × List Char) :=
  stringBody? (cs.length + 1) cs []

/-! ### Documents -/

def literal? (word : String) (value : Json) (cs : List Char) : Option (Json × List Char) :=
  if word.toList.isPrefixOf cs then some (value, cs.drop word.length) else none

/-- The deepest nesting of arrays and objects. -/
def maxDepth : Nat := 127

mutual

/-- Reads a value with blanks before it; `fuel` bounds the length of the text and `depth` is the
nesting left. -/
def value? : (fuel depth : Nat) → List Char → Option (Json × List Char)
  | 0, _, _ => none
  | fuel + 1, depth, cs =>
    match skipBlanks cs with
    | [] => none
    | 'n' :: cs => literal? "ull" .null cs
    | 't' :: cs => literal? "rue" (.bool true) cs
    | 'f' :: cs => literal? "alse" (.bool false) cs
    | '"' :: cs => (string? cs).map fun (s, cs) => (.string s, cs)
    | '[' :: cs =>
      match depth, skipBlanks cs with
      | 0, _ => none
      | _ + 1, ']' :: cs => some (.array [], cs)
      | depth + 1, cs => (items? fuel depth cs).map fun (items, cs) => (.array items, cs)
    | '\x7b' :: cs =>
      match depth, skipBlanks cs with
      | 0, _ => none
      | _ + 1, '\x7d' :: cs => some (.object [], cs)
      | depth + 1, cs => (members? fuel depth cs).map fun (members, cs) => (ofMembers members, cs)
    | cs => (JsonNumber.read? cs).map fun (n, cs) => (.number n, cs)

/-- Reads the items of an array and its closing bracket. -/
def items? : (fuel depth : Nat) → List Char → Option (List Json × List Char)
  | 0, _, _ => none
  | fuel + 1, depth, cs =>
    match value? fuel depth cs with
    | none => none
    | some (item, cs) =>
      match skipBlanks cs with
      | ']' :: cs => some ([item], cs)
      | ',' :: cs => (items? fuel depth cs).map fun (items, cs) => (item :: items, cs)
      | _ => none

/-- Reads the members of an object and its closing brace. -/
def members? : (fuel depth : Nat) → List Char → Option (List (String × Json) × List Char)
  | 0, _, _ => none
  | fuel + 1, depth, cs =>
    match skipBlanks cs with
    | '"' :: cs =>
      match string? cs with
      | none => none
      | some (name, cs) =>
        match skipBlanks cs with
        | ':' :: cs =>
          match value? fuel depth cs with
          | none => none
          | some (value, cs) =>
            match skipBlanks cs with
            | '\x7d' :: cs => some ([(name, value)], cs)
            | ',' :: cs =>
              (members? fuel depth cs).map fun (members, cs) => ((name, value) :: members, cs)
            | _ => none
        | _ => none
    | _ => none

end

/-- The document that a text holds. -/
def parse? (text : String) : Option Json :=
  let cs := text.toList
  match value? (2 * cs.length + 2) maxDepth cs with
  | some (value, rest) => if (skipBlanks rest).isEmpty then some value else none
  | none => none

end Elementwise.Json
