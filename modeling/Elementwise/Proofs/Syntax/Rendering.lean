import Elementwise.Expr.Parser

/-!
# Writing an expression with no more parentheses than it needs

Every form of expression has a rank: the tighter it binds, the higher.  `Expr.render` writes an
operand in parentheses exactly if its rank is lower than its place asks for.  The left operand of a
binary operator may have the operator's own rank and the right one has to have a higher rank; for
`??`, which groups to the right, it is the other way round.  Member access, calls and indexing ask
for the highest rank.  The condition of a conditional is always in parentheses, since a name before
`?` and `(` would be read as a type.

`Expr.nesting` counts how deep a rendering nests, and `Expr.eraseOffsets` forgets where the parts of
an expression stand.  The latter changes all offsets with `Expr.mapParts`, which applies a function to
every name in an expression and another one to every offset that stands by itself.
-/

namespace Elementwise

/-! ### Changing the names and offsets in an expression -/

namespace Expr

variable (f : Ident → Ident) (g : Nat → Nat)

mutual

@[simp]
def mapParts : Expr → Expr
  | literal l => literal l
  | null => null
  | it offset => it (g offset)
  | identifier id => identifier (f id)
  | member object name => member object.mapParts (f name)
  | index object args offset => index object.mapParts (mapAll args) (g offset)
  | call callee args offset => call callee.mapParts (mapAll args) (g offset)
  | nullableConversion target args => nullableConversion (f target) (mapAll args)
  | unary op operand offset => unary op operand.mapParts (g offset)
  | binary op left right offset => binary op left.mapParts right.mapParts (g offset)
  | conditional c a b offset => conditional c.mapParts a.mapParts b.mapParts (g offset)
  | nullPropagation operand offset => nullPropagation operand.mapParts (g offset)
  | array elements offset => array (mapAll elements) (g offset)
  | record members offset => record (mapMembers members) (g offset)
  | lambda param body => lambda (f param) body.mapParts

@[simp]
def mapAll : List Expr → List Expr
  | [] => []
  | e :: es => e.mapParts :: mapAll es

@[simp]
def mapMembers : List (Ident × Expr) → List (Ident × Expr)
  | [] => []
  | (name, e) :: ms => (f name, e.mapParts) :: mapMembers ms

end

/-- The member of a record with its names and offsets changed. -/
def mapMember (m : Ident × Expr) : Ident × Expr :=
  (f m.1, m.2.mapParts f g)

theorem mapAll_eq_map (es : List Expr) : mapAll f g es = es.map (mapParts f g) := by
  induction es with
  | nil => rfl
  | cons e es ih => rw [mapAll, ih, List.map_cons]

theorem mapMembers_eq_map (ms : List (Ident × Expr)) :
    mapMembers f g ms = ms.map (mapMember f g) := by
  induction ms with
  | nil => rfl
  | cons m ms ih => rw [mapMembers, ih, List.map_cons, mapMember]

end Expr

/-! ### Ranks -/

/-- The rank of the operators of a level. -/
def Precedence.rank : Precedence → Nat
  | or => 2
  | and => 3
  | equality => 4
  | relational => 5
  | additive => 6
  | multiplicative => 7

namespace BinaryOperator

def rank (op : BinaryOperator) : Nat :=
  match op.precedence? with
  | some level => level.rank
  | none => 1

/-- The lowest rank of a left operand without parentheses. -/
def leftRank (op : BinaryOperator) : Nat :=
  match op.precedence? with
  | some level => level.rank
  | none => 2

/-- The lowest rank of a right operand without parentheses. -/
def rightRank (op : BinaryOperator) : Nat :=
  match op.precedence? with
  | some level => level.rank + 1
  | none => 1

end BinaryOperator

def Expr.rank : Expr → Nat
  | conditional .. | lambda .. => 0
  | binary op _ _ _ => op.rank
  | unary .. => 8
  | _ => 9

/-! ### Lexemes -/

def Literal.lexeme : Literal → Lexeme
  | boolean true => .keyword .true
  | boolean false => .keyword .false
  | char c => .char c
  | string s => .string s
  | number n => .number n

def UnaryOperator.punctuator : UnaryOperator → Punctuator
  | negate => .minus
  | plus => .plus
  | not => .bang

def BinaryOperator.punctuator : BinaryOperator → Punctuator
  | equal => .equal
  | notEqual => .notEqual
  | lessThan => .less
  | greaterThan => .greater
  | lessEqual => .lessEqual
  | greaterEqual => .greaterEqual
  | add => .plus
  | subtract => .minus
  | multiply => .star
  | divide => .slash
  | modulo => .percent
  | and => .ampersands
  | or => .bars
  | coalesce => .questions

/-- The lexemes between a delimiter and the one that closes it. -/
def Lexeme.enclose (l r : Punctuator) (ls : List Lexeme) : List Lexeme :=
  .punctuator l :: (ls ++ [.punctuator r])

/-- The items of a list with commas between them. -/
def Lexeme.commas (items : List (List Lexeme)) : List Lexeme :=
  List.intercalate [.punctuator .comma] items

/-! ### Renderings -/

namespace Expr

/-- An expression that is written as `ls`, at a place that asks for a rank. -/
def place (e : Expr) (ls : List Lexeme) (rank : Nat) : List Lexeme :=
  if e.rank < rank then Lexeme.enclose .openParen .closeParen ls else ls

mutual

/-- The lexemes of an expression, with the parentheses that it needs. -/
def render : Expr → List Lexeme
  | literal l => [l.lexeme]
  | null => [.keyword .null]
  | it _ => [.keyword .it]
  | identifier id => [.identifier id.name]
  | member object name =>
    object.place object.render 9 ++ [.punctuator .dot, .identifier name.name]
  | index object args _ =>
    object.place object.render 9 ++
      Lexeme.enclose .openBracket .closeBracket (Lexeme.commas (renderAll args))
  | call callee args _ =>
    callee.place callee.render 9 ++
      Lexeme.enclose .openParen .closeParen (Lexeme.commas (renderAll args))
  | nullableConversion target args =>
    .identifier target.name :: .punctuator .question ::
      Lexeme.enclose .openParen .closeParen (Lexeme.commas (renderAll args))
  | unary op operand _ => .punctuator op.punctuator :: operand.place operand.render 8
  | binary op left right _ =>
    left.place left.render op.leftRank ++
      .punctuator op.punctuator :: right.place right.render op.rightRank
  | conditional c a b _ =>
    Lexeme.enclose .openParen .closeParen c.render ++
      .punctuator .question :: (a.render ++ .punctuator .colon :: b.render)
  | nullPropagation operand _ =>
    .keyword .np :: Lexeme.enclose .openParen .closeParen operand.render
  | array elements _ =>
    .keyword .new :: .punctuator .openBracket :: .punctuator .closeBracket ::
      Lexeme.enclose .openBrace .closeBrace (Lexeme.commas (renderAll elements))
  | record members _ =>
    .keyword .new :: Lexeme.enclose .openParen .closeParen (Lexeme.commas (renderMembers members))
  | lambda param body => .identifier param.name :: .punctuator .arrow :: body.render

def renderAll : List Expr → List (List Lexeme)
  | [] => []
  | e :: es => e.render :: renderAll es

def renderMembers : List (Ident × Expr) → List (List Lexeme)
  | [] => []
  | (name, e) :: ms => (e.render ++ [.keyword .as, .identifier name.name]) :: renderMembers ms

end

theorem renderAll_eq_map (es : List Expr) : renderAll es = es.map render := by
  induction es with
  | nil => rfl
  | cons e es ih => rw [renderAll, ih, List.map_cons]

/-- The lexemes of a member of a record. -/
def renderMember (m : Ident × Expr) : List Lexeme :=
  m.2.render ++ [.keyword .as, .identifier m.1.name]

theorem renderMembers_eq_map (ms : List (Ident × Expr)) :
    renderMembers ms = ms.map renderMember := by
  induction ms with
  | nil => rfl
  | cons m ms ih => rw [renderMembers, ih, List.map_cons, renderMember]

/-- The lexemes of an expression at a place that asks for a rank. -/
def renderAt (rank : Nat) (e : Expr) : List Lexeme :=
  e.place e.render rank

/-! ### Nesting -/

/-- Parentheses add a level to what they enclose. -/
def deepen (e : Expr) (depth rank : Nat) : Nat :=
  if e.rank < rank then depth + 1 else depth

mutual

/-- How deep the rendering of an expression nests below the level of the expression itself.
Parentheses, arguments, elements and members, the operand of a prefix operator, the branches of a
conditional and the body of a lambda are each one level deeper. -/
def depth : Expr → Nat
  | literal _ | null | it _ | identifier _ => 0
  | member object _ => object.deepen object.depth 9
  | index object args _ => max (object.deepen object.depth 9) (depthAll args)
  | call callee args _ => max (callee.deepen callee.depth 9) (depthAll args)
  | nullableConversion _ args => depthAll args
  | unary _ operand _ => operand.deepen operand.depth 8 + 1
  | binary op left right _ =>
    max (left.deepen left.depth op.leftRank) (right.deepen right.depth op.rightRank)
  | conditional c a b _ => max c.depth (max a.depth b.depth) + 1
  | nullPropagation operand _ => operand.depth + 1
  | array elements _ => depthAll elements
  | record members _ => depthMembers members
  | lambda _ body => body.depth + 1

def depthAll : List Expr → Nat
  | [] => 0
  | e :: es => max (e.depth + 1) (depthAll es)

def depthMembers : List (Ident × Expr) → Nat
  | [] => 0
  | (_, e) :: ms => max (e.depth + 1) (depthMembers ms)

end

def depthAt (rank : Nat) (e : Expr) : Nat :=
  e.deepen e.depth rank

/-- The number of levels of a rendering, of which the whole is the first. -/
def nesting (e : Expr) : Nat :=
  e.depth + 1

end Expr

/-! ### Offsets -/

def Ident.eraseOffset (id : Ident) : Ident :=
  ⟨id.name, 0⟩

/-- The expression as if everything stood at the start of the text. -/
abbrev Expr.eraseOffsets (e : Expr) : Expr :=
  e.mapParts Ident.eraseOffset fun _ => 0

abbrev Expr.eraseAll (es : List Expr) : List Expr :=
  mapAll Ident.eraseOffset (fun _ => 0) es

end Elementwise
