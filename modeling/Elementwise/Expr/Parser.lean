import Elementwise.Expr.Basic
import Elementwise.Token.Lexer

/-!
The grammar of expressions.  From the loosest to the tightest: conditionals, `??`, the six levels of
binary operators, prefix operators, and chains of member access, calls and indexing.  Parts of an
expression, operands of prefix operators and the branches of a conditional each nest one level
deeper, and the depth is limited: `Nested` holds the parsers of the next deeper level, so that every
rule is written without recursion through the others.
-/

namespace Elementwise

inductive SyntaxError where
  | emptyExpression
  | unexpectedToken (found expected : String) (offset : Nat)
  | missingAlias (offset : Nat)
  | wrongArgumentCount (form : String) (expected found offset : Nat)
  | tooDeep (limit offset : Nat)
  deriving DecidableEq

namespace SyntaxError

def message (e : SyntaxError) : String :=
  let nat (n : Nat) := String.ofList (Text.digits n)
  match e with
  | emptyExpression => "expression is empty"
  | unexpectedToken found expected offset =>
    "unexpected " ++ found ++ " at offset " ++ nat offset ++ ", expected " ++ expected
  | missingAlias offset =>
    "anonymous object member at offset " ++ nat offset ++ " must be followed by 'as <name>'"
  | wrongArgumentCount form expected found offset =>
    "'" ++ form ++ "' takes " ++ nat expected ++ " argument(s) but " ++ nat found ++
      " were given at offset " ++ nat offset
  | tooDeep limit offset =>
    "expression nests deeper than " ++ nat limit ++ " levels at offset " ++ nat offset

end SyntaxError

namespace Token

/-- The binary operator that a token stands for. -/
def binaryOperator? (t : Token) : Option BinaryOperator :=
  match t.lexeme with
  | .punctuator .equal => some .equal
  | .punctuator .notEqual => some .notEqual
  | .punctuator .less => some .lessThan
  | .punctuator .greater => some .greaterThan
  | .punctuator .lessEqual => some .lessEqual
  | .punctuator .greaterEqual => some .greaterEqual
  | .punctuator .plus => some .add
  | .punctuator .minus => some .subtract
  | .punctuator .star => some .multiply
  | .punctuator .slash => some .divide
  | .punctuator .percent | .keyword .mod => some .modulo
  | .punctuator .ampersands | .keyword .and => some .and
  | .punctuator .bars | .keyword .or => some .or
  | .punctuator .questions => some .coalesce
  | _ => none

/-- The prefix operator that a token stands for. -/
def unaryOperator? (t : Token) : Option UnaryOperator :=
  match t.lexeme with
  | .punctuator .bang | .keyword .not => some .not
  | .punctuator .minus => some .negate
  | .punctuator .plus => some .plus
  | _ => none

def quoted (t : Token) : String :=
  "'" ++ t.spelling ++ "'"

def ident? (t : Token) : Option Ident :=
  t.name?.map fun name => ⟨name, t.offset⟩

end Token

/-- Reads the tokens of a text that ends at `stop` from the left; the rest is returned. -/
abbrev Parser (α : Type) : Type :=
  (stop : Nat) → List Token → Except SyntaxError (α × List Token)

namespace Parser

/-! ### Single tokens -/

/-- Where the next token, or the end of the text, stands. -/
def position (stop : Nat) : List Token → Nat
  | [] => stop
  | t :: _ => t.offset

def unexpected (expected : String) (stop : Nat) (ts : List Token) : SyntaxError :=
  let found := match ts with
    | [] => "end of expression"
    | t :: _ => t.quoted
  .unexpectedToken found expected (position stop ts)

/-- The tokens after an operator or delimiter, if it comes first. -/
def after? (s : Punctuator) : List Token → Option (List Token)
  | [] => none
  | t :: ts => if t.punctuator? = some s then some ts else none

/-- The tokens after a keyword, if it comes first. -/
def afterKeyword? (k : Keyword) : List Token → Option (List Token)
  | [] => none
  | t :: ts => if t.keyword? = some k then some ts else none

/-- Passes over a delimiter that has to come next. -/
def require (s : Punctuator) (expected : String) : Parser Unit := fun stop ts =>
  match after? s ts with
  | some ts => .ok ((), ts)
  | none => .error (unexpected expected stop ts)

/-- Reads a name that has to come next. -/
def ident (expected : String) : Parser Ident := fun stop ts =>
  match ts with
  | t :: rest =>
    match t.ident? with
    | some id => .ok (id, rest)
    | none => .error (unexpected expected stop ts)
  | [] => .error (unexpected expected stop ts)

/-! ### Lists -/

/-- One or more items with commas between them, and the closing delimiter. -/
def itemsUntil {α : Type} (close : Punctuator) (expected : String) (item : Parser α) :
    (fuel : Nat) → Parser (List α)
  | 0, stop, ts => .error (unexpected expected stop ts)
  | fuel + 1, stop, ts => do
    let (x, ts) ← item stop ts
    match after? .comma ts, after? close ts with
    | some ts, _ =>
      let (xs, ts) ← itemsUntil close expected item fuel stop ts
      .ok (x :: xs, ts)
    | none, some ts => .ok ([x], ts)
    | none, none => .error (unexpected expected stop ts)

/-- Items up to a closing delimiter, whose opening one has been read. -/
def listUntil {α : Type} (close : Punctuator) (expected : String) (item : Parser α) :
    Parser (List α) := fun stop ts =>
  match after? close ts with
  | some ts => .ok ([], ts)
  | none => itemsUntil close expected item (ts.length + 1) stop ts

/-! ### Operators -/

/-- Extends an expression by the operators of one level that follow it. -/
def chainFrom (level : Precedence) (operand : Parser Expr) : (fuel : Nat) → Expr → Parser Expr
  | 0, left, _, ts => .ok (left, ts)
  | _, left, _, [] => .ok (left, [])
  | fuel + 1, left, stop, t :: ts =>
    match t.binaryOperator? with
    | some op =>
      if op.precedence? = some level then do
        let (right, ts) ← operand stop ts
        chainFrom level operand fuel (.binary op left right t.offset) stop ts
      else .ok (left, t :: ts)
    | none => .ok (left, t :: ts)

/-- Operands with operators of one level between them, grouped to the left. -/
def chain (level : Precedence) (operand : Parser Expr) : Parser Expr := fun stop ts => do
  let (left, ts) ← operand stop ts
  chainFrom level operand ts.length left stop ts

/-- The binary operators of all levels. -/
def operators (operand : Parser Expr) : Parser Expr :=
  Precedence.tightestFirst.foldl (fun operand level => chain level operand) operand

/-- Operands with `??` between them, grouped to the right. -/
def coalesceFrom (operand : Parser Expr) : (fuel : Nat) → Parser Expr
  | 0, stop, ts => operand stop ts
  | fuel + 1, stop, ts => do
    let (left, ts) ← operand stop ts
    match after? .questions ts with
    | some rest =>
      let (right, rest) ← coalesceFrom operand fuel stop rest
      .ok (.binary .coalesce left right (position stop ts), rest)
    | none => .ok (left, ts)

def coalesce (operand : Parser Expr) : Parser Expr := fun stop ts =>
  coalesceFrom operand ts.length stop ts

/-! ### The levels of one depth -/

/-- The parsers of the parts that nest one level deeper. -/
structure Nested where
  expression : Parser Expr
  operand : Parser Expr

variable (inner : Nested)

def arguments (close : Punctuator) (expected : String) : Parser (List Expr) :=
  listUntil close expected inner.expression

def callArguments : Parser (List Expr) :=
  arguments inner .closeParen "',' or ')'"

/-- The arguments of a form with a fixed number of them, which stands at `offset`. -/
def fixedArguments (form : String) (count offset : Nat) : Parser (List Expr) := fun stop ts => do
  let ((), ts) ← require .openParen "'('" stop ts
  let (args, ts) ← callArguments inner stop ts
  if args.length = count then .ok (args, ts)
  else .error (.wrongArgumentCount form count args.length offset)

/-- The arrow and the body of a lambda. -/
def lambdaBody (param : Ident) : Parser Expr := fun stop ts => do
  let ((), ts) ← require .arrow "'=>'" stop ts
  let (body, ts) ← inner.expression stop ts
  .ok (.lambda param body, ts)

/-- A member of a record, `x as N`. -/
def recordMember : Parser (Ident × Expr) := fun stop ts => do
  let start := position stop ts
  let (value, ts) ← inner.expression stop ts
  match afterKeyword? .as ts with
  | some ts =>
    let (name, ts) ← ident "member name after 'as'" stop ts
    .ok ((name, value), ts)
  | none => .error (.missingAlias start)

/-- What follows `new`, which stands at `offset`. -/
def newForm (offset : Nat) : Parser Expr := fun stop ts =>
  match after? .openBracket ts, after? .openParen ts with
  | some ts, _ => do
    let ((), ts) ← require .closeBracket "']'" stop ts
    let ((), ts) ← require .openBrace "'\x7b'" stop ts
    let (elements, ts) ← arguments inner .closeBrace "',' or '\x7d'" stop ts
    .ok (.array elements offset, ts)
  | none, some ts => do
    let (members, ts) ← listUntil .closeParen "',' or ')'" (recordMember inner) stop ts
    .ok (.record members offset, ts)
  | none, none => .error (unexpected "'[' or '(' after 'new'" stop ts)

/-- What a name at the start of a primary expression introduces: a lambda, a conversion to a
nullable type, or nothing but itself. -/
def named (id : Ident) : Parser Expr := fun stop ts =>
  if (after? .arrow ts).isSome then lambdaBody inner id stop ts
  else
    match (after? .question ts).bind (after? .openParen) with
    | some ts => do
      let (args, ts) ← callArguments inner stop ts
      .ok (.nullableConversion id args, ts)
    | none => .ok (.identifier id, ts)

/-- The parameter of a lambda in parentheses, and the tokens from its arrow on. -/
def parameter? : List Token → Option (Ident × List Token)
  | [] => none
  | t :: ts => do
    let id ← t.ident?
    let ts ← after? .closeParen ts
    if (after? .arrow ts).isSome then some (id, ts) else none

/-- What follows an opening parenthesis: a lambda's parameter, or an expression. -/
def parenthesized : Parser Expr := fun stop ts =>
  match parameter? ts with
  | some (id, ts) => lambdaBody inner id stop ts
  | none => do
    let (e, ts) ← inner.expression stop ts
    let ((), ts) ← require .closeParen "')'" stop ts
    .ok (e, ts)

/-- A constant, a name, a lambda, an expression in parentheses, or a form with a keyword. -/
def primary : Parser Expr := fun stop ts =>
  let other := Except.error (unexpected "an expression" stop ts)
  match ts with
  | [] => other
  | t :: ts =>
    match t.lexeme with
    | .number n => .ok (.literal (.number n), ts)
    | .string s => .ok (.literal (.string s), ts)
    | .char c => .ok (.literal (.char c), ts)
    | .keyword .true => .ok (.literal (.boolean true), ts)
    | .keyword .false => .ok (.literal (.boolean false), ts)
    | .keyword .null => .ok (.null, ts)
    | .keyword .it =>
      if (after? .arrow ts).isSome then lambdaBody inner ⟨t.spelling, t.offset⟩ stop ts
      else .ok (.it t.offset, ts)
    | .identifier name => named inner ⟨name, t.offset⟩ stop ts
    | .punctuator .openParen => parenthesized inner stop ts
    | .keyword .new => newForm inner t.offset stop ts
    | .keyword .np => do
      match ← fixedArguments inner "np" 1 t.offset stop ts with
      | ([e], ts) => .ok (.nullPropagation e t.offset, ts)
      | _ => other
    | .keyword .iif => do
      match ← fixedArguments inner "iif" 3 t.offset stop ts with
      | ([c, a, b], ts) => .ok (.conditional c a b t.offset, ts)
      | _ => other
    | _ => other

/-- Extends an expression by the member accesses, calls and indexings that follow it. -/
def postfixFrom : (fuel : Nat) → Expr → Parser Expr
  | 0, e, _, ts => .ok (e, ts)
  | _, e, _, [] => .ok (e, [])
  | fuel + 1, e, stop, t :: ts =>
    match t.punctuator? with
    | some .dot => do
      let (name, ts) ← ident "member name after '.'" stop ts
      postfixFrom fuel (.member e name) stop ts
    | some .openParen => do
      let (args, ts) ← callArguments inner stop ts
      postfixFrom fuel (.call e args t.offset) stop ts
    | some .openBracket => do
      let (args, ts) ← arguments inner .closeBracket "',' or ']'" stop ts
      postfixFrom fuel (.index e args t.offset) stop ts
    | _ => .ok (e, t :: ts)

def postfixChain : Parser Expr := fun stop ts => do
  let (e, ts) ← primary inner stop ts
  postfixFrom inner ts.length e stop ts

/-- A prefix operator and its operand, or an expression without one. -/
def unary : Parser Expr := fun stop ts =>
  match ts with
  | [] => postfixChain inner stop ts
  | t :: rest =>
    match t.unaryOperator? with
    | some op => do
      let (operand, rest) ← inner.operand stop rest
      .ok (.unary op operand t.offset, rest)
    | none => postfixChain inner stop ts

def conditional : Parser Expr := fun stop ts => do
  let (condition, ts) ← coalesce (operators (unary inner)) stop ts
  match after? .question ts with
  | some rest =>
    let (whenTrue, rest) ← inner.expression stop rest
    let ((), rest) ← require .colon "':'" stop rest
    let (whenFalse, rest) ← inner.expression stop rest
    .ok (.conditional condition whenTrue whenFalse (position stop ts), rest)
  | none => .ok (condition, ts)

/-! ### Expressions -/

/-- The deepest nesting. -/
def maxNesting : Nat :=
  128

/-- The parsers with so many levels of nesting left. -/
def nested : (levels : Nat) → Nested
  | 0 =>
    let tooDeep : Parser Expr := fun stop ts => .error (.tooDeep maxNesting (position stop ts))
    ⟨tooDeep, tooDeep⟩
  | levels + 1 =>
    let inner := nested levels
    ⟨conditional inner, unary inner⟩

end Parser

/-- The expression that the tokens of a text ending at `stop` spell. -/
def Expr.ofTokens (ts : List Token) (stop : Nat) : Except SyntaxError Expr := do
  if ts.isEmpty then .error .emptyExpression
  else
    let (e, rest) ← (Parser.nested Parser.maxNesting).expression stop ts
    if rest.isEmpty then .ok e
    else .error (Parser.unexpected "end of expression" stop rest)

end Elementwise
