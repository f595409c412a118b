/-!
The Gregorian calendar, extended to all years.  A day is counted from January 1 of year 1, which is
day zero and a Monday.
-/

namespace Elementwise.Time

def isLeapYear (year : Int) : Bool :=
  year % 4 == 0 && (year % 100 != 0 || year % 400 == 0)

/-- The days of the months, in order. -/
def monthLengths (year : Int) : List Nat :=
  [31, if isLeapYear year then 29 else 28, 31, 30, 31, 30, 31, 31, 30, 31, 30, 31]

/-- The number of days in a month, counted from 1. -/
def daysInMonth? (year : Int) (month : Nat) : Option Nat :=
  if month = 0 then none else (monthLengths year)[month - 1]?

def daysBeforeYear (year : Int) : Int :=
  let y := year - 1
  365 * y + y / 4 - y / 100 + y / 400

def daysBeforeMonth (year : Int) (month : Nat) : Nat :=
  ((monthLengths year).take (month - 1)).foldl (· + ·) 0

/-- The day of a calendar date, if the month has such a day. -/
def dayOf? (year : Int) (month day : Nat) : Option Int :=
  match daysInMonth? year month with
  | some length =>
    if 1 ≤ day && day ≤ length then
      some (daysBeforeYear year + daysBeforeMonth year month + (day - 1 : Nat))
    else none
  | none => none

/-- A year and a day in it, counted from zero. -/
structure YearDay where
  year : Int
  day : Nat

/-- The year of a day, found by taking off spans of 400, 100, 4 and 1 years; the last of four such
spans may be a day longer than the others. -/
def yearDay (day : Int) : YearDay :=
  let cycle := day / 146097
  let r := (day % 146097).toNat
  let century := min 3 (r / 36524)
  let r := r - century * 36524
  let four := r / 1461
  let r := r - four * 1461
  let year := min 3 (r / 365)
  ⟨cycle * 400 + century * 100 + four * 4 + year + 1, r - year * 365⟩

/-- The month, counted from 1, and the day in it, counted from 1, of a day in the year. -/
def monthAndDay : (lengths : List Nat) → (month dayOfYear : Nat) → Nat × Nat
  | [], month, d => (month, d + 1)
  | length :: lengths, month, d =>
    if d < length then (month, d + 1) else monthAndDay lengths (month + 1) (d - length)

structure Date where
  year : Int
  month : Nat
  day : Nat
  deriving DecidableEq

def date (day : Int) : Date :=
  let yd := yearDay day
  let (month, d) := monthAndDay (monthLengths yd.year) 1 yd.day
  ⟨yd.year, month, d⟩

/-- The day of the week, Sunday being zero. -/
def weekday (day : Int) : Nat :=
  ((day + 1) % 7).toNat

/-- The first and the last day for which dates are kept. -/
def firstDay : Int :=
  daysBeforeYear (-262143)

def lastDay : Int :=
  daysBeforeYear 262143 - 1

end Elementwise.Time
