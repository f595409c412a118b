import Elementwise.Text.Unicode.Letter
import Elementwise.Text.Unicode.Number
import Elementwise.Text.Unicode.Mark
import Elementwise.Text.Unicode.Cased

/-!
The character classes that the language consults: white space, letters, numbers and the letter
cases, each after the Unicode property of that name.  ASCII characters are decided by comparison
and all others by a table, so a fact about ASCII text never has to look into a table.
-/

namespace Elementwise.Text

/-- Whether a code point lies in one of the closed ranges. -/
def inRanges (ranges : List (Nat × Nat)) (n : Nat) : Bool :=
  ranges.any fun (first, last) => first ≤ n && n ≤ last

/-- Whether a code point is one of `first`, `first + step`, ..., `last` for some row. -/
def inRuns (runs : List (Nat × Nat × Nat)) (n : Nat) : Bool :=
  runs.any fun (first, last, step) => first ≤ n && n ≤ last && (n - first) % step == 0

def isAscii (c : Char) : Bool :=
  c.toNat < 0x80

def isAsciiUpper (c : Char) : Bool :=
  'A' ≤ c && c ≤ 'Z'

def isAsciiLower (c : Char) : Bool :=
  'a' ≤ c && c ≤ 'z'

def isAsciiDigit (c : Char) : Bool :=
  '0' ≤ c && c ≤ '9'

def isAsciiHexDigit (c : Char) : Bool :=
  isAsciiDigit c || ('a' ≤ c && c ≤ 'f') || ('A' ≤ c && c ≤ 'F')

/-! ### White space -/

/-- The White_Space property; the list is closed, no later version of the standard extends it. -/
def whiteSpaceRanges : List (Nat × Nat) :=
  [(0x9, 0xD), (0x20, 0x20), (0x85, 0x85), (0xA0, 0xA0), (0x1680, 0x1680), (0x2000, 0x200A),
   (0x2028, 0x2029), (0x202F, 0x202F), (0x205F, 0x205F), (0x3000, 0x3000)]

def isSpace (c : Char) : Bool :=
  inRanges whiteSpaceRanges c.toNat

/-! ### Letters and numbers -/

def isLetter (c : Char) : Bool :=
  if isAscii c then isAsciiUpper c || isAsciiLower c
  else inRanges Unicode.alphabeticRanges c.toNat

/-- A character of one of the three number categories, such as `7`, `٣`, `½` or `Ⅷ`. -/
def isNumber (c : Char) : Bool :=
  if isAscii c then isAsciiDigit c else inRanges Unicode.numberRanges c.toNat

def isLetterOrNumber (c : Char) : Bool :=
  isLetter c || isNumber c

/-- A decimal digit of any script. -/
def isDecimalDigit (c : Char) : Bool :=
  if isAscii c then isAsciiDigit c else inRanges Unicode.decimalDigitRanges c.toNat

/-- A character that belongs to a word: a letter, mark, decimal digit or connector. -/
def isWordChar (c : Char) : Bool :=
  if isAscii c then isAsciiUpper c || isAsciiLower c || isAsciiDigit c || c == '_'
  else inRanges Unicode.alphabeticRanges c.toNat || inRanges Unicode.markRanges c.toNat ||
    inRanges Unicode.decimalDigitRanges c.toNat || inRanges Unicode.connectorRanges c.toNat

/-! ### Letter case -/

def isUppercase (c : Char) : Bool :=
  if isAscii c then isAsciiUpper c else inRuns Unicode.uppercaseRuns c.toNat

def isLowercase (c : Char) : Bool :=
  if isAscii c then isAsciiLower c else inRuns Unicode.lowercaseRuns c.toNat

def isCased (c : Char) : Bool :=
  isUppercase c || isLowercase c || inRuns Unicode.titlecaseRuns c.toNat

def isCaseIgnorable (c : Char) : Bool :=
  inRanges Unicode.caseIgnorableRanges c.toNat

end Elementwise.Text
