/-!
The numeric kinds.  Eight are words: integers of a fixed width, signed or unsigned.  The others are
characters, which take part in arithmetic through their code, two sizes of binary floating point
and decimals.
-/

namespace Elementwise.Number

/-! ### Words -/

inductive WordKind where
  | sbyte | byte | int16 | uint16 | int32 | uint32 | int64 | uint64
  deriving DecidableEq, Repr

namespace WordKind

def bits : WordKind → Nat
  | sbyte | byte => 8
  | int16 | uint16 => 16
  | int32 | uint32 => 32
  | int64 | uint64 => 64

def signed : WordKind → Bool
  | sbyte | int16 | int32 | int64 => true
  | byte | uint16 | uint32 | uint64 => false

/-- The number of values of the kind. -/
def size (k : WordKind) : Int :=
  Nat.pow 2 k.bits

def min (k : WordKind) : Int :=
  if k.signed then -(Nat.pow 2 (k.bits - 1) : Int) else 0

def max (k : WordKind) : Int :=
  k.min + k.size - 1

def name : WordKind → String
  | sbyte => "SByte"
  | byte => "Byte"
  | int16 => "Int16"
  | uint16 => "UInt16"
  | int32 => "Int32"
  | uint32 => "UInt32"
  | int64 => "Int64"
  | uint64 => "UInt64"

theorem size_pos (k : WordKind) : 0 < k.size := by
  cases k <;> decide

theorem min_le_zero (k : WordKind) : k.min ≤ 0 := by
  cases k <;> decide

theorem zero_le_max (k : WordKind) : 0 ≤ k.max := by
  cases k <;> decide

end WordKind

/-- An integer in the range of its kind. -/
@[ext]
structure Word (k : WordKind) where
  val : Int
  min_le : k.min ≤ val
  le_max : val ≤ k.max
  deriving DecidableEq

namespace Word

/-- The integer itself, if it lies in the range of the kind. -/
def ofInt? (k : WordKind) (n : Int) : Option (Word k) :=
  if h : k.min ≤ n ∧ n ≤ k.max then some ⟨n, h.1, h.2⟩ else none

/-- The member of the kind that is congruent to the integer modulo the size of the kind. -/
def wrap (k : WordKind) (n : Int) : Word k where
  val := k.min + (n - k.min) % k.size
  min_le := by
    have := Int.emod_nonneg (n - k.min) (Int.ne_of_gt k.size_pos)
    omega
  le_max := by
    have := Int.emod_lt_of_pos (n - k.min) k.size_pos
    simp only [WordKind.max]
    omega

def zero (k : WordKind) : Word k :=
  ⟨0, k.min_le_zero, k.zero_le_max⟩

theorem ofInt?_eq_some {k : WordKind} {n : Int} {w : Word k} :
    ofInt? k n = some w ↔ w.val = n := by
  constructor
  · intro h
    unfold ofInt? at h
    split at h
    · cases h; rfl
    · cases h
  · rintro rfl
    simp [ofInt?, w.min_le, w.le_max]

theorem wrap_val {k : WordKind} (w : Word k) : wrap k w.val = w := by
  have h₁ := w.min_le
  have h₂ := w.le_max
  simp only [WordKind.max] at h₂
  ext
  simp only [wrap]
  rw [Int.emod_eq_of_lt (by omega) (by omega)]
  omega

end Word

abbrev Int32Word := Word .int32

/-! ### Numeric kinds -/

inductive NumericKind where
  | char
  | word (k : WordKind)
  | single
  | double
  | decimal
  deriving DecidableEq, Repr

namespace NumericKind

/-- The kinds in their order of presentation. -/
def all : List NumericKind :=
  [.char, .word .sbyte, .word .byte, .word .int16, .word .uint16, .word .int32, .word .uint32,
   .word .int64, .word .uint64, .single, .double, .decimal]

def name : NumericKind → String
  | char => "Char"
  | word k => k.name
  | single => "Single"
  | double => "Double"
  | decimal => "Decimal"

def integral : NumericKind → Bool
  | char | word _ => true
  | single | double | decimal => false

def signed : NumericKind → Bool
  | char => false
  | word k => k.signed
  | single | double | decimal => true

/-- Whether every value of one word kind is a value of the other. -/
def wordWidens (a b : WordKind) : Bool :=
  b.min ≤ a.min && a.max ≤ b.max

/-- The implicit conversions between kinds: a word or character goes to every word kind that holds
all its values and to every kind with fractions, and single precision goes to double. -/
def widensTo : NumericKind → NumericKind → Bool
  | char, char => true
  | char, word b => wordWidens .uint16 b
  | word _, char => false
  | word a, word b => wordWidens a b
  | char, _ | word _, _ => true
  | single, t => t == single || t == double
  | s, t => s == t

end NumericKind

end Elementwise.Number
