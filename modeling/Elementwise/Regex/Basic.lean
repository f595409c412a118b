import Elementwise.Text.Case

/-!
Regular expressions: character classes, assertions, sequences, alternatives, repetitions and
groups.  There are no back references and no look-around beyond the neighbouring characters.
-/

namespace Elementwise.Regex

/-! ### Character classes -/

inductive CharClass where
  | range (first last : Char)
  | digit
  | space
  | word
  | letter
  | number
  | mark
  | alphabetic
  | uppercase
  | lowercase
  | uppercaseLetter
  | ascii (c : CharClass)
  | negated (c : CharClass)
  | union (a b : CharClass)
  | intersection (a b : CharClass)
  | difference (a b : CharClass)
  | symmetricDifference (a b : CharClass)

/-- Characters that some property counts as letters though their category is another one. -/
def letterLike (c : Char) : Bool :=
  Text.inRanges [(0x24B6, 0x24E9), (0x1F130, 0x1F149), (0x1F150, 0x1F169), (0x1F170, 0x1F189)]
    c.toNat

def isCategoryLetter (c : Char) : Bool :=
  Text.isLetter c && !Text.isNumber c && !Text.inRanges Text.Unicode.markRanges c.toNat &&
    !letterLike c

/-- The single character to which a mapping sends a character, or the character itself. -/
def single (image : List Char) (c : Char) : Char :=
  match image with
  | [d] => d
  | _ => c

/-- The key that the spellings of a character in either case share. -/
def caseKey (c : Char) : Char :=
  if c = 'ı' then c
  else
    let up := single (Text.upperChar c) c
    single (Text.lowerChar up) up

/-- The characters that a class has to be asked about where case is ignored. -/
def caseVariants (c : Char) : List Char :=
  let key := caseKey c
  [c, key, single (Text.upperChar key) key] ++
    (if key = 'k' then ['K'] else if key = 's' then ['ſ'] else [])

namespace CharClass

def empty : CharClass :=
  difference (range 'a' 'a') (range 'a' 'a')

def any : CharClass :=
  negated empty

/-- Whether a character belongs to the class; `ignoreCase` lets a character stand for its spellings
in the other case, before any negation. -/
def contains (ignoreCase : Bool) : CharClass → Char → Bool
  | range a b, c =>
    let within (d : Char) : Bool := a ≤ d && d ≤ b
    if ignoreCase then (caseVariants c).any within else within c
  | digit, c => Text.isDecimalDigit c
  | space, c => Text.isSpace c
  | word, c => Text.isWordChar c
  | letter, c => isCategoryLetter c
  | number, c => Text.isNumber c
  | mark, c => Text.inRanges Text.Unicode.markRanges c.toNat
  | alphabetic, c => Text.isLetter c
  | uppercase, c => (if ignoreCase then caseVariants c else [c]).any Text.isUppercase
  | lowercase, c => (if ignoreCase then caseVariants c else [c]).any Text.isLowercase
  | uppercaseLetter, c =>
    (if ignoreCase then caseVariants c else [c]).any fun d =>
      Text.isUppercase d && isCategoryLetter d
  | ascii a, c => Text.isAscii c && a.contains ignoreCase c
  | negated a, c => !a.contains ignoreCase c
  | union a b, c => a.contains ignoreCase c || b.contains ignoreCase c
  | intersection a b, c => a.contains ignoreCase c && b.contains ignoreCase c
  | difference a b, c => a.contains ignoreCase c && !b.contains ignoreCase c
  | symmetricDifference a b, c => a.contains ignoreCase c != b.contains ignoreCase c

end CharClass

/-! ### Expressions -/

inductive Assertion where
  | textStart | textEnd | lineStart | lineEnd
  | boundary (ascii negated : Bool)
  | wordStart (ascii : Bool)
  | wordEnd (ascii : Bool)
  | noWordBefore (ascii : Bool)
  | noWordAfter (ascii : Bool)

inductive Expr where
  | empty
  | one (c : CharClass) (ignoreCase : Bool)
  | assertion (a : Assertion)
  | sequence (a b : Expr)
  | choice (a b : Expr)
  | repetition (least : Nat) (most : Option Nat) (greedy : Bool) (e : Expr)
  | group (index : Nat) (e : Expr)

end Elementwise.Regex
