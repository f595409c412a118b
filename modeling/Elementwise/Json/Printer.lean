import Elementwise.Json.Basic

/-!
Writing JSON, in one line or with one item a line and two spaces for each level.
-/

namespace Elementwise.Json

/-! ### Strings -/

def hexDigit (n : Nat) : Char :=
  if n < 10 then Char.ofNat (48 + n) else Char.ofNat (87 + n)

/-- The spelling of a character inside quotes: only quotes, backslashes and control characters are
not written as they are. -/
def escape (c : Char) : List Char :=
  if c = '"' then ['\\', '"']
  else if c = '\\' then ['\\', '\\']
  else if c = '\x08' then ['\\', 'b']
  else if c = '\t' then ['\\', 't']
  else if c = '\n' then ['\\', 'n']
  else if c = '\x0c' then ['\\', 'f']
  else if c = '\r' then ['\\', 'r']
  else if c.toNat < 32 then ['\\', 'u', '0', '0', hexDigit (c.toNat / 16), hexDigit (c.toNat % 16)]
  else [c]

def quote (s : String) : List Char :=
  '"' :: s.toList.flatMap escape ++ ['"']

/-! ### One line -/

/-- Items with a comma between them. -/
def commaSeparated : List (List Char) → List Char
  | [] => []
  | [item] => item
  | item :: items => item ++ ',' :: commaSeparated items

mutual

def compact : Json → List Char
  | .null => "null".toList
  | .bool true => "true".toList
  | .bool false => "false".toList
  | .number n => n.text
  | .string s => quote s
  | .array items => '[' :: commaSeparated (compactItems items) ++ [']']
  | .object members => '\x7b' :: commaSeparated (compactMembers members) ++ ['\x7d']

def compactItems : List Json → List (List Char)
  | [] => []
  | item :: items => compact item :: compactItems items

def compactMembers : List (String × Json) → List (List Char)
  | [] => []
  | (name, value) :: members => (quote name ++ ':' :: compact value) :: compactMembers members

end

/-! ### Indented -/

def newLine (level : Nat) : List Char :=
  '\n' :: List.replicate (2 * level) ' '

/-- A bracketed group with one item a line, or nothing between the brackets. -/
def block (level : Nat) (first last : Char) (items : List (List Char)) : List Char :=
  if items.isEmpty then [first, last]
  else
    first :: commaSeparated (items.map (newLine (level + 1) ++ ·)) ++ newLine level ++ [last]

mutual

def indented (level : Nat) : Json → List Char
  | .array items => block level '[' ']' (indentedItems (level + 1) items)
  | .object members => block level '\x7b' '\x7d' (indentedMembers (level + 1) members)
  | .null => "null".toList
  | .bool true => "true".toList
  | .bool false => "false".toList
  | .number n => n.text
  | .string s => quote s

def indentedItems (level : Nat) : List Json → List (List Char)
  | [] => []
  | item :: items => indented level item :: indentedItems level items

def indentedMembers (level : Nat) : List (String × Json) → List (List Char)
  | [] => []
  | (name, value) :: members =>
    (quote name ++ ':' :: ' ' :: indented level value) :: indentedMembers level members

end

def print (j : Json) : String :=
  String.ofList j.compact

def printIndented (j : Json) : String :=
  String.ofList (j.indented 0)

end Elementwise.Json
