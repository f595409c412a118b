import Elementwise.Operator
import Elementwise.Value.Basic

/-!
Expressions as they are written, before any name is looked up and any type is known.  Parts of an
expression keep the offset of the token that introduces them, for messages.
-/

namespace Elementwise

/-- A name as it is written, and where. -/
structure Ident where
  name : String
  offset : Nat
  deriving DecidableEq

namespace Ident

/-- The form in which names are compared. -/
def key (id : Ident) : String :=
  Text.fold id.name

end Ident

/-- The constants other than `null`. -/
inductive Literal where
  | boolean (b : Bool)
  | char (c : Char)
  | string (s : String)
  | number (n : Number)

namespace Literal

def value : Literal → Value
  | boolean b => .boolean b
  | char c => .char c
  | string s => .string s
  | number n => .number n

end Literal

inductive Expr where
  | literal (l : Literal)
  | null
  /-- the parameter without a name: the input, or the item that a query works on -/
  | it (offset : Nat)
  | identifier (name : Ident)
  | member (object : Expr) (name : Ident)
  | index (object : Expr) (args : List Expr) (offset : Nat)
  | call (callee : Expr) (args : List Expr) (offset : Nat)
  /-- `T?(x)` -/
  | nullableConversion (target : Ident) (args : List Expr)
  | unary (op : UnaryOperator) (operand : Expr) (offset : Nat)
  | binary (op : BinaryOperator) (left right : Expr) (offset : Nat)
  | conditional (condition whenTrue whenFalse : Expr) (offset : Nat)
  /-- `np(x)` -/
  | nullPropagation (operand : Expr) (offset : Nat)
  /-- `new[]` and elements in braces -/
  | array (elements : List Expr) (offset : Nat)
  /-- `new(… as N)` -/
  | record (members : List (Ident × Expr)) (offset : Nat)
  | lambda (param : Ident) (body : Expr)

namespace Expr

/-- Where an expression is said to stand; constants do not know. -/
def offset : Expr → Nat
  | literal _ | null => 0
  | it offset | index _ _ offset | call _ _ offset | unary _ _ offset | binary _ _ _ offset
  | conditional _ _ _ offset | nullPropagation _ offset | array _ offset | record _ offset => offset
  | identifier name | member _ name | nullableConversion name _ | lambda name _ => name.offset

end Expr

end Elementwise
