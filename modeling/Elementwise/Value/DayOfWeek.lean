import Elementwise.Value.Basic

/-!
The names of the days of the week.  A day of the week is kept as a 32-bit integer, and an integer
that is no day has no name.
-/

namespace Elementwise.DayOfWeek

open Number

def names : List String :=
  ["Sunday", "Monday", "Tuesday", "Wednesday", "Thursday", "Friday", "Saturday"]

def name? (n : Word .int32) : Option String :=
  if n.val < 0 then none else names[n.val.toNat]?

/-- The day with a name, whose ASCII letters may be spelled in either case. -/
def ofName? (name : String) : Option (Word .int32) :=
  (names.findIdx? (Text.sameIgnoringAsciiCase · name)).bind fun i => Word.ofInt? .int32 i

/-- The members with their numbers, in order. -/
def members : List (String × Word .int32) :=
  names.zipIdx.map fun (name, i) => (name, Word.wrap .int32 i)

def ofDay (day : Int) : Word .int32 :=
  Word.wrap .int32 (Time.weekday day)

end Elementwise.DayOfWeek
