import Elementwise.Number.Basic
import Elementwise.Text.Case

/-!
The tokens of expressions.  A token keeps its spelling and the offset of its first character, so
that messages can quote the text as it was written although words and names ignore letter case.
-/

namespace Elementwise

/-- The reserved words. -/
inductive Keyword where
  | it | null | true | false | new | as | and | or | not | mod | np | iif
  deriving DecidableEq

namespace Keyword

/-- The words in lower case. -/
def words : List (String × Keyword) :=
  [("it", it), ("null", null), ("true", true), ("false", false), ("new", new), ("as", as),
   ("and", and), ("or", or), ("not", not), ("mod", mod), ("np", np), ("iif", iif)]

/-- The keyword that a name spells in any letter case. -/
def ofName? (name : String) : Option Keyword :=
  words.lookup (Text.fold name)

end Keyword

/-- The operators and delimiters. -/
inductive Punctuator where
  | plus | minus | star | slash | percent | bang
  | equal | notEqual | less | greater | lessEqual | greaterEqual
  | ampersands | bars
  | question | questions | colon | arrow
  | dot | comma
  | openParen | closeParen | openBracket | closeBracket | openBrace | closeBrace
  deriving DecidableEq

namespace Punctuator

/-- The spellings, each before its own beginnings. -/
def spellings : List (String × Punctuator) :=
  [("==", equal), ("=>", arrow), ("!=", notEqual), ("<=", lessEqual), ("<>", notEqual),
   (">=", greaterEqual), ("??", questions), ("&&", ampersands), ("||", bars),
   ("+", plus), ("-", minus), ("*", star), ("/", slash), ("%", percent), ("!", bang),
   ("=", equal), ("<", less), (">", greater), ("?", question), (":", colon), (".", dot),
   (",", comma), ("(", openParen), (")", closeParen), ("[", openBracket), ("]", closeBracket),
   ("\x7b", openBrace), ("\x7d", closeBrace)]

/-- The operator or delimiter that the text starts with, and its spelling. -/
def ofPrefix? (cs : List Char) : Option (String × Punctuator) :=
  spellings.find? fun (spelling, _) => spelling.toList.isPrefixOf cs

end Punctuator

inductive Lexeme where
  | number (n : Number)
  | string (s : String)
  | char (c : Char)
  | identifier (name : String)
  | keyword (word : Keyword)
  | punctuator (s : Punctuator)

structure Token where
  lexeme : Lexeme
  spelling : String
  offset : Nat

namespace Token

/-- The offset just after the token. -/
def stop (t : Token) : Nat :=
  t.offset + t.spelling.length

def punctuator? (t : Token) : Option Punctuator :=
  match t.lexeme with
  | .punctuator s => some s
  | _ => none

def keyword? (t : Token) : Option Keyword :=
  match t.lexeme with
  | .keyword k => some k
  | _ => none

/-- The name, if the token is one and no keyword. -/
def name? (t : Token) : Option String :=
  match t.lexeme with
  | .identifier name => some name
  | _ => none

end Token

end Elementwise
