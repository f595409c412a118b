import Elementwise.Number.Kind
import Elementwise.Number.Layout

/-!
JSON documents.  A number without fraction and exponent that fits a 64-bit word of either sign is
an integer, any other number a finite double.  The members of an object are kept in the order of
their names, and a name occurs once.
-/

namespace Elementwise

inductive JsonNumber where
  | integer (n : Int)
  | real (x : Float)

inductive Json where
  | null
  | bool (b : Bool)
  | number (n : JsonNumber)
  | string (s : String)
  | array (items : List Json)
  | object (members : List (String × Json))

namespace JsonNumber

open Number

/-- The number as a signed 64-bit integer. -/
def int64? : JsonNumber → Option Int
  | integer n => (Word.ofInt? .int64 n).map (·.val)
  | real _ => none

/-- The number as an unsigned 64-bit integer. -/
def uint64? : JsonNumber → Option Int
  | integer n => (Word.ofInt? .uint64 n).map (·.val)
  | real _ => none

def toFloat : JsonNumber → Float
  | integer n => floatOfInt n
  | real x => x

def text : JsonNumber → List Char
  | integer n => Text.integer n
  | real x => (floatJson? x).getD "null".toList

end JsonNumber

namespace Json

/-- The members with one more; a member of the same name is replaced. -/
def insertMember (name : String) (value : Json) : List (String × Json) → List (String × Json)
  | [] => [(name, value)]
  | (n, v) :: members =>
    match compare name n with
    | .lt => (name, value) :: (n, v) :: members
    | .eq => (name, value) :: members
    | .gt => (n, v) :: insertMember name value members

/-- The object with these members, of which a later one replaces an earlier one of its name. -/
def ofMembers (members : List (String × Json)) : Json :=
  object (members.foldl (fun ms (n, v) => insertMember n v ms) [])

end Json

end Elementwise
