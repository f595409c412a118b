import Elementwise.Text.Char
import Elementwise.Text.Unicode.CaseMap

/-!
Letter case mappings of characters and text.  A mapping may be longer than one character, as for
`ß`, and a capital sigma has two lowercase forms, of which the one for the end of a word is chosen
by its surroundings.
-/

namespace Elementwise.Text

/-! ### Single characters -/

/-- The image that a table of case mappings gives to a code point. -/
def imageOf? (images : List (Nat × Nat × Nat × Nat)) (n : Nat) : Option Nat :=
  (images.find? fun (first, last, step, _) => first ≤ n && n ≤ last && (n - first) % step == 0).map
    fun (first, _, _, image) => image + (n - first)

/-- The image of a character above U+007F under a pair of mapping tables. -/
def mapCase (expansions : List (Nat × List Nat)) (images : List (Nat × Nat × Nat × Nat))
    (c : Char) : List Char :=
  match expansions.lookup c.toNat with
  | some image => image.map Char.ofNat
  | none =>
    match imageOf? images c.toNat with
    | some image => [Char.ofNat image]
    | none => [c]

def asciiLower (c : Char) : Char :=
  if isAsciiUpper c then Char.ofNat (c.toNat + 32) else c

def asciiUpper (c : Char) : Char :=
  if isAsciiLower c then Char.ofNat (c.toNat - 32) else c

def lowerChar (c : Char) : List Char :=
  if isAscii c then [asciiLower c]
  else mapCase Unicode.lowercaseExpansions Unicode.lowercaseImages c

def upperChar (c : Char) : List Char :=
  if isAscii c then [asciiUpper c]
  else mapCase Unicode.uppercaseExpansions Unicode.uppercaseImages c

/-! ### Text -/

/-- Whether the first character that is not case-ignorable has a letter case. -/
def meetsCased (cs : List Char) : Bool :=
  match cs.dropWhile isCaseIgnorable with
  | c :: _ => isCased c
  | [] => false

/-- Lowercases text whose preceding characters are `before`, nearest first. -/
def lowerAfter (before : List Char) : List Char → List Char
  | [] => []
  | c :: rest =>
    let image :=
      if c = 'Σ' then [if meetsCased before && !meetsCased rest then 'ς' else 'σ'] else lowerChar c
    image ++ lowerAfter (c :: before) rest

def lower (cs : List Char) : List Char :=
  lowerAfter [] cs

def upper (cs : List Char) : List Char :=
  cs.flatMap upperChar

/-- The key under which a name is looked up: spellings that differ in letter case share it. -/
def fold (name : String) : String :=
  String.ofList (lower name.toList)

/-- Whether two texts agree once ASCII letters are lowercased. -/
def sameIgnoringAsciiCase (s t : String) : Bool :=
  s.toList.map asciiLower == t.toList.map asciiLower

end Elementwise.Text
