import Elementwise.Value.Basic

/-!
Two orders on values.  `compare?` is the one that comparison operators use: it relates values of one
kind, `null` before all others, and leaves floating point numbers that are none unrelated.
`sortOrder` extends it to a total order for sorting and extrema: there such numbers come before all
others of their kind, and values of different kinds go by the name of the kind.
-/

namespace Elementwise.Value

def compare? : Value → Value → Option Ordering
  | null, null => some .eq
  | null, _ => some .lt
  | _, null => some .gt
  | boolean a, boolean b => some (compare a.toNat b.toNat)
  | number a, number b => a.compare? b
  | string a, string b => some (compare a b)
  | dateTime a, dateTime b => some (a.compare b)
  | dateTimeOffset a, dateTimeOffset b => some (a.compare b)
  | timeSpan a, timeSpan b => some (compare a.nanoseconds b.nanoseconds)
  | guid a, guid b => some (compare a.code.val b.code.val)
  | dayOfWeek a, dayOfWeek b => some (compare a.val b.val)
  | _, _ => none

def sortOrder (a b : Value) : Ordering :=
  let byKind := compare a.kindName b.kindName
  match a, b with
  | number m, number n =>
    if m.kind = n.kind then
      match m.isNaN, n.isNaN with
      | true, true => .eq
      | true, false => .lt
      | false, true => .gt
      | false, false => (m.compare? n).getD .eq
    else byKind
  | a, b => (compare? a b).getD byKind

end Elementwise.Value
