/-!
Rounding of quotients of natural numbers, and of numbers with a sign, to integers.
-/

namespace Elementwise.Number

/-- The integer nearest to `num / den`; a tie goes to the even neighbour. -/
def divEven (num den : Nat) : Nat :=
  let q := num / den
  let r := 2 * (num % den)
  if r < den then q else if den < r then q + 1 else q + q % 2

/-- The integer nearest to `num / den`; a tie goes to the larger neighbour. -/
def divHalfUp (num den : Nat) : Nat :=
  (2 * num + den) / (2 * den)

/-- The ways to turn a number into an integer. -/
inductive Rounding where
  | toZero | down | up | toEven
  deriving DecidableEq

/-- The magnitude of the integer to which a number of the given sign and magnitude rounds. -/
def Rounding.magnitude (r : Rounding) (negative : Bool) (num den : Nat) : Nat :=
  let floor := num / den
  let ceiling := (num + den - 1) / den
  match r with
  | .toZero => floor
  | .down => if negative then ceiling else floor
  | .up => if negative then floor else ceiling
  | .toEven => divEven num den

theorem divEven_of_dvd {num den : Nat} (h : den ∣ num) (hd : 0 < den) :
    divEven num den = num / den := by
  simp [divEven, Nat.mod_eq_zero_of_dvd h, hd]

end Elementwise.Number
