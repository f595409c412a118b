import Elementwise.Token.Basic
import Elementwise.Decimal.Reading
import Elementwise.Number.Reading

/-!
Splitting the text of an expression into tokens.  Blanks separate tokens and are dropped; each token
is the longest that the text at hand starts with.  Offsets count characters.
-/

namespace Elementwise

inductive LexError where
  | unexpectedCharacter (c : Char) (offset : Nat)
  | unterminatedString (offset : Nat)
  | invalidEscape (c : Char) (offset : Nat)
  | invalidNumber (spelling : String) (offset : Nat)
  deriving DecidableEq

namespace LexError

def offset : LexError → Nat
  | unexpectedCharacter _ offset | unterminatedString offset | invalidEscape _ offset
  | invalidNumber _ offset => offset

def message (e : LexError) : String :=
  let place := " at offset " ++ String.ofList (Text.digits e.offset)
  match e with
  | unexpectedCharacter c _ => "unexpected character '" ++ c.toString ++ "'" ++ place
  | unterminatedString offset =>
    "unterminated literal starting at offset " ++ String.ofList (Text.digits offset)
  | invalidEscape c _ => "invalid escape sequence '\\" ++ c.toString ++ "'" ++ place
  | invalidNumber spelling _ => "invalid numeric literal '" ++ spelling ++ "'" ++ place

end LexError

namespace Token

open Text Number

/-! ### Text literals -/

/-- The escapes of one letter. -/
def escapes : List (Char × Char) :=
  [('n', '\n'), ('t', '\t'), ('r', '\r'), ('0', Char.ofNat 0), ('"', '"'), ('\'', '\''),
   ('\\', '\\')]

/-- The character written as four hexadecimal digits. -/
def codeEscape? : List Char → Option Char
  | [a, b, c, d] =>
    let ds := [a, b, c, d]
    let n := ofHexDigits ds
    if ds.all isAsciiHexDigit && n.isValidChar then some (Char.ofNat n) else none
  | _ => none

/-- Why a text literal cannot be read; offsets count from its opening quote. -/
inductive LiteralError where
  | unterminated
  | escape (c : Char) (distance : Nat)

/-- Reads the content of a literal up to its closing quote, and returns the rest after it.
`distance` is the number of characters from the opening quote. -/
def literalBody (quote : Char) (distance : Nat) :
    List Char → Except LiteralError (List Char × List Char)
  | [] => .error .unterminated
  | '\\' :: 'u' :: cs =>
    match cs with
    | a :: b :: c :: d :: cs =>
      match codeEscape? [a, b, c, d] with
      | some e => (literalBody quote (distance + 6) cs).map fun (body, rest) => (e :: body, rest)
      | none => .error (.escape 'u' distance)
    | _ => .error (.escape 'u' distance)
  | ['\\'] => .error .unterminated
  | '\\' :: c :: cs =>
    match escapes.lookup c with
    | some e => (literalBody quote (distance + 2) cs).map fun (body, rest) => (e :: body, rest)
    | none => .error (.escape c distance)
  | c :: cs =>
    if c = quote then .ok ([], cs)
    else (literalBody quote (distance + 1) cs).map fun (body, rest) => (c :: body, rest)

def LiteralError.toLexError (e : LiteralError) (offset : Nat) : LexError :=
  match e with
  | unterminated => .unterminatedString offset
  | escape c distance => .invalidEscape c (offset + distance)

/-- A single-quoted literal of one character is a character, any other literal is a string. -/
def literalOf (quote : Char) (body : List Char) : Lexeme :=
  match quote, body with
  | '\'', [c] => .char c
  | _, body => .string (String.ofList body)

/-! ### Numbers -/

/-- Whether a character may continue a name. -/
def isNamePart (c : Char) : Bool :=
  isLetterOrNumber c || c == '_'

def isNameStart (c : Char) : Bool :=
  isLetter c || c == '_'

/-- The word kinds that a suffix admits for an integer, smallest first. -/
def integerKinds : String → List WordKind
  | "" => [.int32, .uint32, .int64, .uint64]
  | "u" => [.uint32, .uint64]
  | "l" => [.int64, .uint64]
  | "ul" | "lu" => [.uint64]
  | _ => []

/-- An integer in the first admitted kind that holds it. -/
def integerLiteral? (n : Nat) (suffix : String) : Option Number :=
  (integerKinds suffix).findSome? fun k => (Word.ofInt? k n).map (.word k)

/-- The value of a hexadecimal number. -/
def hexLiteral? (digits : List Char) (suffix : String) : Option Number :=
  let n := ofHexDigits digits
  if WordKind.uint64.max < n then none
  else if suffix = "m" then (Decimal.ofInt? n).map .decimal
  else integerLiteral? n suffix

/-- The value of a number whose digits, point and exponent are `cs`. -/
def decimalLiteral? (cs : List Char) (real : Bool) (suffix : String) : Option Number :=
  match suffix with
  | "f" => (float32? cs).map .single
  | "d" => (float? cs).map .double
  | "m" => (if cs.contains 'e' then Decimal.scientific? cs else Decimal.plain? cs).map .decimal
  | suffix =>
    if real then if suffix = "" then (float? cs).map .double else none
    else integerLiteral? (ofDigits cs) suffix

/-- The fraction at the start of the text, with its point, if a digit follows the point. -/
def fractionPart : List Char → List Char
  | '.' :: c :: cs => if isAsciiDigit c then '.' :: (c :: cs).takeWhile isAsciiDigit else []
  | _ => []

/-- The exponent at the start of the text, with its letter, if there are digits to it. -/
def exponentPart : List Char → List Char
  | c :: cs =>
    if c == 'e' || c == 'E' then
      match cs with
      | s :: d :: ds =>
        if isAsciiDigit s then c :: (s :: d :: ds).takeWhile isAsciiDigit
        else if (s == '+' || s == '-') && isAsciiDigit d then
          c :: s :: (d :: ds).takeWhile isAsciiDigit
        else []
      | [d] => if isAsciiDigit d then [c, d] else []
      | [] => []
    else []
  | [] => []

/-- The exponent with its letter in lower case. -/
def lowerExponent (cs : List Char) : List Char :=
  match cs with
  | _ :: cs => 'e' :: cs
  | [] => []

/-- Whether the text starts as a hexadecimal number. -/
def isHexStart : List Char → Bool
  | '0' :: x :: d :: _ => (x == 'x' || x == 'X') && isAsciiHexDigit d
  | _ => false

/-- Reads the number that the text starts with: its spelling, and its value if it has one. -/
def numberPart (cs : List Char) : List Char × Option Number :=
  if isHexStart cs then
    let body := cs.drop 2
    let digits := body.takeWhile isAsciiHexDigit
    let suffix := (body.dropWhile isAsciiHexDigit).takeWhile isNamePart
    (cs.take 2 ++ digits ++ suffix, hexLiteral? digits (fold (String.ofList suffix)))
  else
    let whole := cs.takeWhile isAsciiDigit
    let cs := cs.dropWhile isAsciiDigit
    let fraction := fractionPart cs
    let cs := cs.drop fraction.length
    let exponent := exponentPart cs
    let suffix := (cs.drop exponent.length).takeWhile isNamePart
    let real := !(fraction.isEmpty && exponent.isEmpty)
    (whole ++ fraction ++ exponent ++ suffix,
      decimalLiteral? (whole ++ fraction ++ lowerExponent exponent) real
        (fold (String.ofList suffix)))

/-! ### Tokens -/

/-- The token at the start of a text that starts with no blank, and the rest of the text. -/
def next (offset : Nat) (c : Char) (cs : List Char) : Except LexError (Token × List Char) :=
  if c == '"' || c == '\'' then
    match literalBody c 1 cs with
    | .ok (body, rest) =>
      let spelling := (c :: cs).take (cs.length + 1 - rest.length)
      .ok (⟨literalOf c body, String.ofList spelling, offset⟩, rest)
    | .error e => .error (e.toLexError offset)
  else if isNameStart c then
    let name := String.ofList ((c :: cs).takeWhile isNamePart)
    let lexeme := match Keyword.ofName? name with
      | some k => .keyword k
      | none => .identifier name
    .ok (⟨lexeme, name, offset⟩, (c :: cs).dropWhile isNamePart)
  else if isAsciiDigit c then
    let (spelling, value) := numberPart (c :: cs)
    match value with
    | some n => .ok (⟨.number n, String.ofList spelling, offset⟩, (c :: cs).drop spelling.length)
    | none => .error (.invalidNumber (String.ofList spelling) offset)
  else
    match Punctuator.ofPrefix? (c :: cs) with
    | some (spelling, s) => .ok (⟨.punctuator s, spelling, offset⟩, (c :: cs).drop spelling.length)
    | none => .error (.unexpectedCharacter c offset)

end Token

/-- The tokens of a text up to its end or to the first place that starts no token. -/
structure Lexed where
  tokens : List Token
  /-- the offset of the end of the text, or why no further token could be read -/
  outcome : Except LexError Nat

namespace Token

/-- Reads tokens from a text, of which each takes at least one character. -/
def scanFrom : (fuel offset : Nat) → List Char → Lexed
  | 0, offset, _ => ⟨[], .ok offset⟩
  | fuel + 1, offset, cs =>
    let offset := offset + (cs.takeWhile Text.isSpace).length
    match cs.dropWhile Text.isSpace with
    | [] => ⟨[], .ok offset⟩
    | c :: cs =>
      match next offset c cs with
      | .error e => ⟨[], .error e⟩
      | .ok (t, rest) =>
        let others := scanFrom fuel (offset + (cs.length + 1 - rest.length)) rest
        { others with tokens := t :: others.tokens }

def scan (text : String) : Lexed :=
  scanFrom (text.length + 1) 0 text.toList

end Token

end Elementwise
