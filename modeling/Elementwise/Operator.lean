/-!
The operators: those that are written in an expression, and the operations that they turn into once
the types of their operands are known.
-/

namespace Elementwise

inductive UnaryOperator where
  | negate | plus | not
  deriving DecidableEq

namespace UnaryOperator

def symbol : UnaryOperator → String
  | negate => "-"
  | plus => "+"
  | not => "!"

end UnaryOperator

/-- The binary operators as they are written. -/
inductive BinaryOperator where
  | equal | notEqual | lessThan | greaterThan | lessEqual | greaterEqual
  | add | subtract | multiply | divide | modulo
  | and | or
  | coalesce
  deriving DecidableEq

namespace BinaryOperator

def symbol : BinaryOperator → String
  | equal => "=="
  | notEqual => "!="
  | lessThan => "<"
  | greaterThan => ">"
  | lessEqual => "<="
  | greaterEqual => ">="
  | add => "+"
  | subtract => "-"
  | multiply => "*"
  | divide => "/"
  | modulo => "%"
  | and => "&&"
  | or => "||"
  | coalesce => "??"

end BinaryOperator

/-- The levels of the binary operators that group to the left. -/
inductive Precedence where
  | or | and | equality | relational | additive | multiplicative
  deriving DecidableEq

namespace Precedence

/-- The levels from the one that binds tightest to the loosest. -/
def tightestFirst : List Precedence :=
  [multiplicative, additive, relational, equality, and, or]

end Precedence

/-- The level of an operator; `??` binds looser than all of them and groups to the right. -/
def BinaryOperator.precedence? : BinaryOperator → Option Precedence
  | equal | notEqual => some .equality
  | lessThan | greaterThan | lessEqual | greaterEqual => some .relational
  | add | subtract => some .additive
  | multiply | divide | modulo => some .multiplicative
  | and => some .and
  | or => some .or
  | coalesce => none

/-- The operations on two values. -/
inductive Operation where
  | add | subtract | multiply | divide | modulo
  | concat
  | equal | notEqual
  | lessThan | greaterThan | lessEqual | greaterEqual
  | and | or
  deriving DecidableEq

namespace Operation

def name : Operation → String
  | add => "Add"
  | subtract => "Subtract"
  | multiply => "Multiply"
  | divide => "Divide"
  | modulo => "Modulo"
  | concat => "Concat"
  | equal => "Equal"
  | notEqual => "NotEqual"
  | lessThan => "LessThan"
  | greaterThan => "GreaterThan"
  | lessEqual => "LessEqual"
  | greaterEqual => "GreaterEqual"
  | and => "And"
  | or => "Or"

end Operation

end Elementwise
