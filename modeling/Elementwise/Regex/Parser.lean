import Elementwise.Regex.Program
import Elementwise.Text.Numeral

/-!
The pattern notation.  A pattern is refused when a group or class is left open or closed twice, a
repetition has nothing to repeat, a range runs backwards, or an escape is not one of the notation.
-/

namespace Elementwise.Regex

structure Flags where
  ignoreCase : Bool
  multiLine : Bool
  dotAll : Bool
  lazyFirst : Bool
  spaced : Bool
  asciiOnly : Bool

def Flags.none : Flags :=
  ⟨false, false, false, false, false, false⟩

/-- What is left of the pattern, the number of groups opened so far and the names among them. -/
structure Pattern where
  rest : List Char
  groups : Nat
  names : List (String × Nat)

/-! ### Escapes -/

/-- What an escape stands for. -/
inductive Escape where
  | char (c : Char)
  | perl (c : CharClass)
  | assertion (a : Assertion)

def charOf? (n : Nat) : Option Char :=
  if n.isValidChar then some (Char.ofNat n) else none

/-- Reads hexadecimal digits, a fixed number of them or any number in braces. -/
def hexEscape? (count : Nat) : List Char → Option (Char × List Char)
  | '\x7b' :: cs =>
    let ds := cs.takeWhile (· != '\x7d')
    match cs.dropWhile (· != '\x7d') with
    | _ :: rest =>
      if ds.isEmpty || !ds.all Text.isAsciiHexDigit then none
      else (charOf? (Text.ofHexDigits ds)).map (·, rest)
    | [] => none
  | cs =>
    let ds := cs.take count
    if ds.length < count || !ds.all Text.isAsciiHexDigit then none
    else (charOf? (Text.ofHexDigits ds)).map (·, cs.drop count)

def property? (name : String) : Option CharClass :=
  let key := String.ofList
    ((Text.lower name.toList).filter fun c => c != '_' && c != ' ' && c != '-')
  [("l", .letter), ("letter", .letter), ("lu", .uppercaseLetter),
    ("uppercaseletter", .uppercaseLetter), ("n", .number), ("number", .number), ("nd", .digit),
    ("decimalnumber", .digit), ("digit", .digit), ("m", .mark), ("mark", .mark),
    ("alphabetic", .alphabetic), ("alpha", .alphabetic), ("uppercase", .uppercase),
    ("upper", .uppercase), ("lowercase", .lowercase), ("lower", .lowercase),
    ("whitespace", .space), ("space", .space), ("wspace", .space),
    ("any", .any),
    ("ascii", .range '\x00' '\x7f')].lookup key

/-- Reads a property name of one letter, or of any length in braces, where `^` negates it. -/
def propertyEscape? : List Char → Option (CharClass × List Char)
  | '\x7b' :: cs =>
    let name := cs.takeWhile (· != '\x7d')
    match cs.dropWhile (· != '\x7d'), name with
    | _ :: rest, '^' :: name => (property? (String.ofList name)).map (.negated ·, rest)
    | _ :: rest, name => (property? (String.ofList name)).map (·, rest)
    | [], _ => none
  | c :: cs => (property? c.toString).map (·, cs)
  | [] => none

/-- The word boundaries that are written with a name in braces. -/
def namedBoundaries (ascii : Bool) : List (String × Assertion) :=
  [("\x7bstart\x7d", .wordStart ascii), ("\x7bend\x7d", .wordEnd ascii),
    ("\x7bstart-half\x7d", .noWordBefore ascii), ("\x7bend-half\x7d", .noWordAfter ascii)]

/-- Reads an escape after its backslash. -/
def escape? (f : Flags) : List Char → Option (Escape × List Char)
  | [] => none
  | c :: cs =>
    let perl (k : CharClass) := some (Escape.perl (if f.asciiOnly then .ascii k else k), cs)
    let negatedPerl (k : CharClass) :=
      some (Escape.perl (.negated (if f.asciiOnly then .ascii k else k)), cs)
    let char (c : Char) := some (Escape.char c, cs)
    match c with
    | 'd' => perl .digit
    | 'D' => negatedPerl .digit
    | 's' => perl .space
    | 'S' => negatedPerl .space
    | 'w' => perl .word
    | 'W' => negatedPerl .word
    | 'p' => (propertyEscape? cs).map fun (k, cs) => (.perl k, cs)
    | 'P' => (propertyEscape? cs).map fun (k, cs) => (.perl (.negated k), cs)
    | 'n' => char '\n'
    | 't' => char '\t'
    | 'r' => char '\r'
    | 'f' => char '\x0c'
    | 'v' => char '\x0b'
    | 'a' => char '\x07'
    | 'x' => (hexEscape? 2 cs).map fun (c, cs) => (.char c, cs)
    | 'u' => (hexEscape? 4 cs).map fun (c, cs) => (.char c, cs)
    | 'U' => (hexEscape? 8 cs).map fun (c, cs) => (.char c, cs)
    | 'b' =>
      match (namedBoundaries f.asciiOnly).find? fun (name, _) => name.toList.isPrefixOf cs with
      | some (name, a) => some (.assertion a, cs.drop name.length)
      | none => some (.assertion (.boundary f.asciiOnly false), cs)
    | 'B' => some (.assertion (.boundary f.asciiOnly true), cs)
    | 'A' => some (.assertion .textStart, cs)
    | 'z' => some (.assertion .textEnd, cs)
    | '<' => some (.assertion (.wordStart f.asciiOnly), cs)
    | '>' => some (.assertion (.wordEnd f.asciiOnly), cs)
    | c =>
      if Text.isAscii c && !Text.isAsciiDigit c && !Text.isLetter c then char c else none

/-! ### Classes in brackets -/

def namedClass? (name : String) : Option CharClass :=
  let r := CharClass.range
  let alpha := CharClass.union (r 'a' 'z') (r 'A' 'Z')
  let alnum := CharClass.union alpha (r '0' '9')
  [("alnum", alnum), ("alpha", alpha), ("ascii", r '\x00' '\x7f'),
    ("blank", .union (r ' ' ' ') (r '\t' '\t')),
    ("cntrl", .union (r '\x00' '\x1f') (r '\x7f' '\x7f')),
    ("digit", r '0' '9'), ("graph", r '!' '~'), ("lower", r 'a' 'z'), ("print", r ' ' '~'),
    ("punct", .difference (r '!' '~') alnum), ("space", .union (r '\t' '\r') (r ' ' ' ')),
    ("upper", r 'A' 'Z'), ("word", .union alnum (r '_' '_')),
    ("xdigit", .union (r '0' '9') (.union (r 'a' 'f') (r 'A' 'F')))].lookup name

/-- Reads the name of an ASCII class after `[`, as in `[:alpha:]`. -/
def asciiClass? : List Char → Option (CharClass × List Char)
  | ':' :: cs =>
    let (negated, cs) := match cs with
      | '^' :: cs => (true, cs)
      | cs => (false, cs)
    let name := cs.takeWhile (· != ':')
    match cs.dropWhile (· != ':') with
    | ':' :: ']' :: rest =>
      (namedClass? (String.ofList name)).map fun k => (if negated then .negated k else k, rest)
    | _ => none
  | _ => none

/-- A member of a class that may begin a range: a character, or a class by itself. -/
def classAtom? (f : Flags) : List Char → Option (Escape × List Char)
  | [] => none
  | '\\' :: cs =>
    match escape? f cs with
    | some (.assertion _, _) => none
    | e => e
  | c :: cs => some (.char c, cs)

def addTo (union : Option CharClass) (k : CharClass) : Option CharClass :=
  some (match union with
    | some u => .union u k
    | none => k)

/-- The operators between the operands of a class. -/
def classOperator? : List Char → Option ((CharClass → CharClass → CharClass) × List Char)
  | '&' :: '&' :: cs => some (.intersection, cs)
  | '-' :: '-' :: cs => some (.difference, cs)
  | '~' :: '~' :: cs => some (.symmetricDifference, cs)
  | _ => none

def skipSpaced (f : Flags) (cs : List Char) : List Char :=
  if f.spaced then cs.dropWhile Text.isSpace else cs

mutual

/-- Reads a class after its opening bracket; `fuel` bounds the length of the pattern. -/
def bracket? : (fuel : Nat) → Flags → List Char → Option (CharClass × List Char)
  | 0, _, _ => none
  | fuel + 1, f, cs =>
    let (negated, cs) := match skipSpaced f cs with
      | '^' :: cs => (true, skipSpaced f cs)
      | cs => (false, cs)
    let dashes := cs.takeWhile (· == '-')
    let cs := cs.dropWhile (· == '-')
    let dash := if dashes.isEmpty then none else some (CharClass.range '-' '-')
    let (start, cs) := match dash, cs with
      | none, ']' :: cs => (some (CharClass.range ']' ']'), cs)
      | dash, cs => (dash, cs)
    (operands? fuel f none start cs).map fun (k, cs) => (if negated then .negated k else k, cs)

/-- Reads members up to the closing bracket.  `left` is the operation waiting for the operand that
is being read, `union` its members so far. -/
def operands? : (fuel : Nat) → Flags → (left : Option (CharClass → CharClass)) →
    (union : Option CharClass) → List Char → Option (CharClass × List Char)
  | 0, _, _, _, _ => none
  | fuel + 1, f, left, union, cs =>
    let cs := skipSpaced f cs
    let operand := union.getD .empty
    let whole := match left with
      | some l => l operand
      | none => operand
    match cs with
    | [] => none
    | ']' :: cs => some (whole, cs)
    | '[' :: cs =>
      match asciiClass? cs with
      | some (k, cs) => operands? fuel f left (addTo union k) cs
      | none =>
        match bracket? fuel f cs with
        | some (k, cs) => operands? fuel f left (addTo union k) cs
        | none => none
    | cs =>
      match classOperator? cs with
      | some (op, cs) => operands? fuel f (some (op whole)) none cs
      | none => member? fuel f left union cs

/-- Reads a character, a class by itself or a range. -/
def member? : (fuel : Nat) → Flags → (left : Option (CharClass → CharClass)) →
    (union : Option CharClass) → List Char → Option (CharClass × List Char)
  | 0, _, _, _, _ => none
  | fuel + 1, f, left, union, cs =>
    match classAtom? f cs with
    | none => none
    | some (atom, cs) =>
      let cs := skipSpaced f cs
      let closes := match cs with
        | '-' :: rest =>
          match skipSpaced f rest with
          | [] | ']' :: _ | '-' :: _ => true
          | _ => false
        | _ => true
      match atom, closes with
      | .char a, false =>
        match classAtom? f (skipSpaced f (cs.drop 1)) with
        | some (.char b, cs) =>
          if a ≤ b then operands? fuel f left (addTo union (.range a b)) cs else none
        | _ => none
      | .char a, true => operands? fuel f left (addTo union (.range a a)) cs
      | .perl k, true => operands? fuel f left (addTo union k) cs
      | _, _ => none

end

/-! ### Repetitions -/

/-- Reads a number with white space around it. -/
def counter? (cs : List Char) : Option (Nat × List Char) :=
  let cs := cs.dropWhile Text.isSpace
  let ds := cs.takeWhile Text.isAsciiDigit
  if ds.isEmpty || Nat.pow 2 32 ≤ Text.ofDigits ds then none
  else some (Text.ofDigits ds, (cs.dropWhile Text.isAsciiDigit).dropWhile Text.isSpace)

/-- Reads the bounds of a counted repetition after its opening brace. -/
def bounds? (cs : List Char) : Option ((Nat × Option Nat) × List Char) := do
  let (least, cs) ← counter? cs
  match cs with
  | '\x7d' :: cs => return ((least, some least), cs)
  | ',' :: '\x7d' :: cs => return ((least, none), cs)
  | ',' :: cs =>
    let (most, cs) ← counter? cs
    match cs with
    | '\x7d' :: cs => if least ≤ most then return ((least, some most), cs) else none
    | _ => none
  | _ => none

/-- Reads a repetition operator without its mark for laziness. -/
def operator? : List Char → Option (Option ((Nat × Option Nat) × List Char))
  | '*' :: cs => some (some ((0, none), cs))
  | '+' :: cs => some (some ((1, none), cs))
  | '?' :: cs => some (some ((0, some 1), cs))
  | '\x7b' :: cs => (bounds? cs).map some
  | _ => some none

/-! ### Spaced patterns -/

/-- Skips white space and comments where the pattern is a spaced one. -/
def skipComments (f : Flags) : (fuel : Nat) → List Char → List Char
  | 0, cs => cs
  | fuel + 1, cs =>
    if f.spaced then
      match cs.dropWhile Text.isSpace with
      | '#' :: cs => skipComments f fuel (cs.dropWhile (· != '\n'))
      | cs => cs
    else cs

/-! ### Expressions -/

/-- Reads flags up to `:` or `)`, none of them twice; a dash switches those after it off. -/
def flags? (on : Bool) (seen : List Char) (f : Flags) : List Char → Option (Flags × List Char)
  | [] => none
  | c :: cs =>
    let next (f : Flags) := if seen.contains c then none else flags? on (c :: seen) f cs
    match c with
    | ':' => if seen.head? == some '-' then none else some (f, c :: cs)
    | ')' => if seen.isEmpty || seen.head? == some '-' then none else some (f, c :: cs)
    | '-' => if on && !seen.contains '-' then flags? false (c :: seen) f cs else none
    | 'i' => next { f with ignoreCase := on }
    | 'm' => next { f with multiLine := on }
    | 's' => next { f with dotAll := on }
    | 'U' => next { f with lazyFirst := on }
    | 'x' => next { f with spaced := on }
    | 'u' => next { f with asciiOnly := !on }
    | _ => none

def nameStart (c : Char) : Bool :=
  c = '_' || Text.isLetter c

def nameRest (c : Char) : Bool :=
  c = '_' || c = '.' || c = '[' || c = ']' || Text.isLetterOrNumber c

/-- Reads the name of a group up to its closing bracket. -/
def groupName? (cs : List Char) : Option (String × List Char) :=
  let name := cs.takeWhile (· != '>')
  match name, cs.dropWhile (· != '>') with
  | c :: more, _ :: rest =>
    if nameStart c && more.all nameRest then some (String.ofList name, rest) else none
  | _, _ => none

/-- The character class of the dot. -/
def anyChar (f : Flags) : CharClass :=
  if f.dotAll then .any else .negated (.range '\n' '\n')

/-- What an item of a sequence is: an expression, or flags for those that follow. -/
inductive Item where
  | expr (e : Expr)
  | flags (f : Flags)

/-- Applies the repetition operators that follow an expression. -/
def repeated? (f : Flags) : (fuel : Nat) → Expr → List Char → Option (Expr × List Char)
  | 0, _, _ => none
  | fuel + 1, e, cs =>
    match operator? (skipComments f cs.length cs) with
    | none => none
    | some none => some (e, cs)
    | some (some ((least, most), cs)) =>
      let (lazy, cs) := match skipComments f cs.length cs with
        | '?' :: cs => (true, cs)
        | _ => (false, cs)
      repeated? f fuel (.repetition least most (lazy == f.lazyFirst) e) cs

mutual

/-- Reads alternatives up to a closing parenthesis or the end; `fuel` bounds the length of the
pattern. -/
def choice? : (fuel : Nat) → Flags → Pattern → Option (Expr × Pattern)
  | 0, _, _ => none
  | fuel + 1, f, p =>
    match sequence? fuel f p with
    | none => none
    | some (a, f, p) =>
      match p.rest with
      | '|' :: cs => (choice? fuel f { p with rest := cs }).map fun (b, p) => (.choice a b, p)
      | _ => some (a, p)

/-- Reads one alternative.  Flags set in it hold beyond it, to the end of the group. -/
def sequence? : (fuel : Nat) → Flags → Pattern → Option (Expr × Flags × Pattern)
  | 0, _, _ => none
  | fuel + 1, f, p =>
    let p := { p with rest := skipComments f p.rest.length p.rest }
    match p.rest with
    | [] | '|' :: _ | ')' :: _ => some (.empty, f, p)
    | _ =>
      match item? fuel f p with
      | none => none
      | some (.flags f, p) => sequence? fuel f p
      | some (.expr e, p) =>
        match repeated? f (p.rest.length + 1) e p.rest with
        | none => none
        | some (e, cs) =>
          (sequence? fuel f { p with rest := cs }).map fun (next, f, p) => (.sequence e next, f, p)

/-- Reads one item that is not yet repeated. -/
def item? : (fuel : Nat) → Flags → Pattern → Option (Item × Pattern)
  | 0, _, _ => none
  | fuel + 1, f, p =>
    let leaf (e : Expr) (cs : List Char) : Option (Item × Pattern) :=
      some (.expr e, { p with rest := cs })
    match p.rest with
    | '(' :: '?' :: 'P' :: '<' :: cs | '(' :: '?' :: '<' :: cs =>
      match groupName? cs with
      | none => none
      | some (name, cs) =>
        let index := p.groups + 1
        if (p.names.lookup name).isSome then none
        else group? fuel f (.group index ·) ⟨cs, index, (name, index) :: p.names⟩
    | '(' :: '?' :: cs =>
      match flags? true [] f cs with
      | some (g, ':' :: cs) => group? fuel g id { p with rest := cs }
      | some (g, _ :: cs) => some (.flags g, { p with rest := cs })
      | _ => none
    | '(' :: cs =>
      let index := p.groups + 1
      group? fuel f (.group index ·) { p with rest := cs, groups := index }
    | '[' :: cs =>
      match bracket? (2 * cs.length + 2) f cs with
      | some (k, cs) => leaf (.one k f.ignoreCase) cs
      | none => none
    | '\\' :: cs =>
      match escape? f cs with
      | some (.char c, cs) => leaf (.one (.range c c) f.ignoreCase) cs
      | some (.perl k, cs) => leaf (.one k f.ignoreCase) cs
      | some (.assertion a, cs) => leaf (.assertion a) cs
      | none => none
    | '.' :: cs => leaf (.one (anyChar f) false) cs
    | '^' :: cs => leaf (.assertion (if f.multiLine then .lineStart else .textStart)) cs
    | '$' :: cs => leaf (.assertion (if f.multiLine then .lineEnd else .textEnd)) cs
    | '*' :: _ | '+' :: _ | '?' :: _ | '\x7b' :: _ => none
    | c :: cs => leaf (.one (.range c c) f.ignoreCase) cs
    | [] => none

/-- Reads the inside of a group and its closing parenthesis. -/
def group? : (fuel : Nat) → Flags → (Expr → Expr) → Pattern → Option (Item × Pattern)
  | 0, _, _, _ => none
  | fuel + 1, f, wrap, p =>
    match choice? fuel f p with
    | none => none
    | some (e, p) =>
      match p.rest with
      | ')' :: cs => some (.expr (wrap e), { p with rest := cs })
      | _ => none

end

end Elementwise.Regex

namespace Elementwise

/-- The most instructions that a program may have. -/
def Regex.weightLimit : Nat :=
  327680

/-- The compiled pattern, or nothing if the notation is violated or the program grows too large. -/
def Regex.compile? (pattern : String) : Option Regex :=
  let cs := pattern.toList
  match Regex.choice? (4 * cs.length + 4) Regex.Flags.none ⟨cs, 0, []⟩ with
  | some (e, p) =>
    if p.rest.isEmpty && e.weight < Regex.weightLimit then some ⟨e.program, p.names⟩ else none
  | none => none

end Elementwise
