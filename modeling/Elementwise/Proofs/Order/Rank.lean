import Elementwise.Proofs.Exact.Number
import Elementwise.Proofs.Number.Comparison
import Mathlib.Data.Prod.Lex
import Mathlib.Data.String.Basic

/-!
Every value has a rank in a linear order, and the order in which values are sorted is the order of
their ranks.  A rank says, from the most to the least significant part: whether there is a value,
the name of its kind, where a number or a time stands among those of its kind, and the letters of a string.
So sorting never meets two values that it cannot put in order, and the order is transitive across
all kinds.
-/

namespace Elementwise

/-! ### Grades -/

/-- Where a number or a time stands among those of its kind. -/
abbrev Grade : Type :=
  ℚ ×ₗ ℤ ×ₗ ℤ

namespace Grade

def of (x : ℚ) (y z : ℤ) : Grade :=
  toLex (x, toLex (y, z))

theorem compare_of (x x' : ℚ) (y y' z z' : ℤ) :
    compare (of x y z) (of x' y' z') =
      (compare x x').then ((compare y y').then (compare z z')) :=
  rfl

/-- The grade that a rational number has by itself. -/
def ofRat (x : ℚ) : Grade :=
  of x 0 0

theorem compare_ofRat (x y : ℚ) : compare (ofRat x) (ofRat y) = compare x y := by
  rw [ofRat, ofRat, compare_of]
  exact Ordering.then_eq

end Grade

namespace Number

open Float.Model (UnpackedFloat)

/-- The grade of a floating point number: what is no number comes first, then the numbers by sign,
and those of one sign by exponent and mantissa. -/
def unpackedGrade : UnpackedFloat → Grade
  | .notANumber => .ofRat (-3)
  | .infinity .negative => .ofRat (-2)
  | .finite .negative m e _ => .of (-1) (-e) (-m)
  | .zero _ => .ofRat 0
  | .finite .positive m e _ => .of 1 e m
  | .infinity .positive => .ofRat 2

theorem compare_neg (x y : ℤ) : compare (-x) (-y) = (compare x y).swap := by
  have hanti : StrictAnti fun x : ℤ => -x := fun _ _ h => neg_lt_neg h
  rw [← cmp_eq_compare, hanti.cmp_map_eq, cmp_eq_compare, Int.compare_swap]

theorem compare_natCast (m n : ℕ) : compare (m : ℤ) (n : ℤ) = compare m n :=
  compare_map Nat.strictMono_cast m n

/-- Floating point numbers that are numbers are in the order of their grades. -/
theorem unpacked_compare {a b : UnpackedFloat} (ha : a.isNaN = false) (hb : b.isNaN = false) :
    a.compare b = some (compare (unpackedGrade a) (unpackedGrade b)) := by
  cases a with
  | notANumber => cases ha
  | infinity s =>
      cases b with
      | notANumber => cases hb
      | infinity s' => cases s <;> cases s' <;> rfl
      | zero => cases s <;> rfl
      | finite s' => cases s <;> cases s' <;> rfl
  | zero s =>
      cases b with
      | notANumber => cases hb
      | infinity s' => cases s' <;> rfl
      | zero => rfl
      | finite s' => cases s' <;> rfl
  | finite s m e =>
      cases b with
      | notANumber => cases hb
      | infinity s' => cases s <;> cases s' <;> rfl
      | zero => cases s <;> rfl
      | finite s' m' e' =>
          cases s with
          | positive =>
              cases s' with
              | positive =>
                  have horder := Grade.compare_of 1 1 e e' m m'
                  rw [compare_natCast] at horder
                  exact congrArg some horder.symm
              | negative => rfl
          | negative =>
              cases s' with
              | positive => rfl
              | negative =>
                  have horder := Grade.compare_of (-1) (-1) (-e) (-e') (-m) (-m')
                  rw [compare_neg, compare_neg, compare_natCast, ← Ordering.swap_then] at horder
                  exact congrArg some horder.symm

/-- The comparison of two floating point numbers by tests, of which the first one that holds decides. -/
theorem floatCompare?_of_compare {a b : UnpackedFloat} {o : Ordering} (h : a.compare b = some o) :
    floatCompare? (a.lt b) (a.beq b) (b.lt a) = some o := by
  have hswap := unpacked_compare_swap a b
  rw [h] at hswap
  show floatCompare? (a.compare b == some .lt) (a.compare b == some .eq)
    (b.compare a == some .lt) = some o
  rw [h, hswap]
  cases o <;> rfl

def grade : Number → Grade
  | char c => .ofRat c.toNat
  | word _ w => .ofRat w.val
  | single x => unpackedGrade x.toModel.unpack
  | double x => unpackedGrade x.toModel.unpack
  | decimal d => .ofRat d.toRat

/-- What is no number comes before all numbers. -/
theorem unpackedGrade_lt {a b : UnpackedFloat} (ha : a.isNaN = true) (hb : b.isNaN = false) :
    compare (unpackedGrade a) (unpackedGrade b) = .lt := by
  cases a with
  | notANumber =>
      cases b with
      | notANumber => cases hb
      | infinity s => cases s <;> rfl
      | zero => rfl
      | finite s => cases s <;> rfl
  | _ => cases ha

theorem unpackedGrade_of_isNaN {a : UnpackedFloat} (ha : a.isNaN = true) :
    unpackedGrade a = .ofRat (-3) := by
  cases a with
  | notANumber => rfl
  | _ => cases ha

theorem float_lt_eq (x y : Float) : decide (x < y) = x.toModel.unpack.lt y.toModel.unpack :=
  Bool.decide_eq_true.trans Bool.decide_eq_true

theorem float32_lt_eq (x y : Float32) : decide (x < y) = x.toModel.unpack.lt y.toModel.unpack :=
  Bool.decide_eq_true.trans Bool.decide_eq_true

variable {m n : Number}

theorem grade_of_isNaN (hm : m.isNaN = true) : m.grade = .ofRat (-3) := by
  cases m with
  | single | double => exact unpackedGrade_of_isNaN hm
  | char | word | decimal => cases hm

theorem grade_lt (hkind : m.kind = n.kind) (hm : m.isNaN = true) (hn : n.isNaN = false) :
    compare m.grade n.grade = .lt := by
  cases m with
  | single =>
      cases n with
      | single => exact unpackedGrade_lt hm hn
      | _ => cases hkind
  | double =>
      cases n with
      | double => exact unpackedGrade_lt hm hn
      | _ => cases hkind
  | char | word | decimal => cases hm

/-- Numbers of one kind are in the order of their grades. -/
theorem compare?_eq_grade (hkind : m.kind = n.kind) (hm : m.isNaN = false) (hn : n.isNaN = false) :
    m.compare? n = some (compare m.grade n.grade) := by
  cases m with
  | char =>
      cases n with
      | char =>
          rw [grade, grade, Grade.compare_ofRat, compare_map Nat.strictMono_cast]
          rfl
      | _ => cases hkind
  | word =>
      cases n with
      | word =>
          cases hkind
          rw [grade, grade, Grade.compare_ofRat, compare_map Int.cast_strictMono, compare?,
            if_pos rfl]
      | _ => cases hkind
  | single x =>
      cases n with
      | single y =>
          rw [compare?, float32_lt_eq, float32_lt_eq]
          exact floatCompare?_of_compare (unpacked_compare hm hn)
      | _ => cases hkind
  | double x =>
      cases n with
      | double y =>
          rw [compare?, float_lt_eq, float_lt_eq]
          exact floatCompare?_of_compare (unpacked_compare hm hn)
      | _ => cases hkind
  | decimal =>
      cases n with
      | decimal => rw [grade, grade, Grade.compare_ofRat, ← Decimal.compare_eq, compare?]
      | _ => cases hkind

/-- Kinds with one name are one kind. -/
theorem NumericKind.name_injective : Function.Injective NumericKind.name := by
  intro k l h
  cases k with
  | word w =>
      cases l with
      | word w' =>
          cases w <;> cases w' <;> first | rfl | exact absurd h (by decide)
      | _ => cases w <;> exact absurd h (by decide)
  | _ =>
      cases l with
      | word w => cases w <;> exact absurd h (by decide)
      | _ => first | rfl | exact absurd h (by decide)

end Number

namespace Value

variable {a b : Value} {m n : Number}

/-! ### Ranks -/

/-- Where a value stands among those of its kind, as far as a number can tell. -/
def grade : Value → Grade
  | boolean b => .ofRat b.toNat
  | number n => n.grade
  | dateTime t => .of t.day t.second.val t.nano.val
  | dateTimeOffset t => .of t.utc.day t.utc.second.val t.utc.nano.val
  | timeSpan s => .ofRat s.nanoseconds
  | guid g => .ofRat g.code.val
  | dayOfWeek n => .ofRat n.val
  | null | string _ | array _ | record .. => .ofRat 0

/-- The letters that are compared, which only a string has. -/
def letters : Value → String
  | string s => s
  | _ => ""

/-- The place of a value in the order in which values are sorted. -/
def rank (v : Value) : Bool ×ₗ String ×ₗ Grade ×ₗ String :=
  toLex (!v.isNull, toLex (v.kindName, toLex (v.grade, v.letters)))

theorem compare_rank (a b : Value) :
    compare a.rank b.rank =
      (compare (!a.isNull) (!b.isNull)).then ((compare a.kindName b.kindName).then
        ((compare a.grade b.grade).then (compare a.letters b.letters))) :=
  rfl

/-- Values of one kind are ranked by grade and letters. -/
theorem compare_rank_of_eq (hnull : a.isNull = b.isNull) (hkind : a.kindName = b.kindName) :
    compare a.rank b.rank = (compare a.grade b.grade).then (compare a.letters b.letters) := by
  rw [compare_rank, hnull, hkind, compare_eq_iff_eq.2 rfl, compare_eq_iff_eq.2 rfl]
  rfl

/-- Values of two kinds are ranked by the names of the kinds. -/
theorem compare_rank_of_ne (hnull : a.isNull = b.isNull) (hkind : a.kindName ≠ b.kindName) :
    compare a.rank b.rank = compare a.kindName b.kindName := by
  rw [compare_rank, hnull, compare_eq_iff_eq.2 rfl]
  have hne : compare a.kindName b.kindName ≠ .eq := fun h => hkind (compare_eq_iff_eq.1 h)
  cases hcompare : compare a.kindName b.kindName with
  | eq => exact absurd hcompare hne
  | _ => rfl

/-- Numbers of one kind are sorted by their grades. -/
theorem sortOrder_number (hkind : m.kind = n.kind) :
    (number m).sortOrder (number n) = compare m.grade n.grade := by
  rw [sortOrder]
  simp only [if_pos hkind]
  cases hm : m.isNaN with
  | true =>
      cases hn : n.isNaN with
      | true => rw [Number.grade_of_isNaN hm, Number.grade_of_isNaN hn]; rfl
      | false => exact (Number.grade_lt hkind hm hn).symm
  | false =>
      cases hn : n.isNaN with
      | true =>
          have hswap : compare m.grade n.grade = (compare n.grade m.grade).swap :=
            Std.OrientedCmp.eq_swap
          rw [hswap, Number.grade_lt hkind.symm hn hm]
          rfl
      | false =>
          rw [Number.compare?_eq_grade hkind hm hn]
          rfl

/-- The kinds of numbers have names of their own. -/
theorem number_kindName_ne (n : Number) {name : String}
    (h : name ∈ ["null", "Boolean", "String", "DateTime", "DateTimeOffset", "TimeSpan", "Guid",
      "DayOfWeek", "Array", "Record"]) : (number n).kindName ≠ name := by
  have hall : n.kind.name ∉ ["null", "Boolean", "String", "DateTime", "DateTimeOffset",
      "TimeSpan", "Guid", "DayOfWeek", "Array", "Record"] := by
    cases n.kind with
    | word k => cases k <;> decide
    | _ => decide
  rintro rfl
  exact hall h

/-- Values of two kinds are sorted by the names of the kinds. -/
theorem sortOrder_of_ne (ha : a.isNull = false) (hb : b.isNull = false)
    (hkind : a.kindName ≠ b.kindName) : a.sortOrder b = compare a.kindName b.kindName := by
  cases a with
  | null => cases ha
  | number m =>
      cases b with
      | null => cases hb
      | number n =>
          have hne : m.kind ≠ n.kind := fun h => hkind (congrArg Number.NumericKind.name h)
          rw [sortOrder]
          simp only [if_neg hne]
      | _ => rfl
  | _ =>
      cases b with
      | null => cases hb
      | _ => first | rfl | exact absurd rfl hkind

/-- Values whose kinds have one name are of one form. -/
theorem ctorIdx_eq (h : a.kindName = b.kindName) : a.ctorIdx = b.ctorIdx := by
  cases a with
  | number m =>
      cases b with
      | number n => rfl
      | _ => exact absurd h (number_kindName_ne m (by simp [kindName]))
  | _ =>
      cases b with
      | number n => exact absurd h.symm (number_kindName_ne n (by simp [kindName]))
      | _ => first | rfl | exact absurd h (by simp [kindName])

theorem compare_dateTime (s t : Time.DateTime) :
    compare (dateTime s).grade (dateTime t).grade = s.compare t := by
  rw [grade, grade, Grade.compare_of, Number.compare_map Int.cast_strictMono,
    Number.compare_natCast, Number.compare_natCast]
  rfl

/-- Values of one kind are sorted by grade and letters. -/
theorem sortOrder_of_eq (ha : a.isNull = false) (hb : b.isNull = false)
    (hkind : a.kindName = b.kindName) :
    a.sortOrder b = (compare a.grade b.grade).then (compare a.letters b.letters) := by
  have hform := ctorIdx_eq hkind
  -- most grades are one rational number, and most values have no letters
  have hrat : ∀ x y : ℚ, compare x y =
      (compare (Grade.ofRat x) (Grade.ofRat y)).then (compare "" "") := fun x y => by
    rw [Grade.compare_ofRat]
    exact Ordering.then_eq.symm
  cases a with
  | null => cases ha
  | boolean x =>
      cases b with
      | boolean y =>
          refine Eq.trans ?_ (hrat _ _)
          rw [Number.compare_map Nat.strictMono_cast]
          rfl
      | _ => cases hform
  | number m =>
      cases b with
      | number n =>
          rw [sortOrder_number (Number.NumericKind.name_injective hkind)]
          exact Ordering.then_eq.symm
      | _ => cases hform
  | string x =>
      cases b with
      | string y => rfl
      | _ => cases hform
  | dateTime x =>
      cases b with
      | dateTime y =>
          rw [compare_dateTime]
          exact Ordering.then_eq.symm
      | _ => cases hform
  | dateTimeOffset x =>
      cases b with
      | dateTimeOffset y =>
          refine Eq.trans (compare_dateTime x.utc y.utc).symm ?_
          exact Ordering.then_eq.symm
      | _ => cases hform
  | timeSpan x =>
      cases b with
      | timeSpan y =>
          refine Eq.trans ?_ (hrat _ _)
          rw [Number.compare_map Int.cast_strictMono]
          rfl
      | _ => cases hform
  | guid x =>
      cases b with
      | guid y =>
          refine Eq.trans ?_ (hrat _ _)
          rw [Number.compare_map Nat.strictMono_cast]
          rfl
      | _ => cases hform
  | dayOfWeek x =>
      cases b with
      | dayOfWeek y =>
          refine Eq.trans ?_ (hrat _ _)
          rw [Number.compare_map Int.cast_strictMono]
          rfl
      | _ => cases hform
  | array =>
      cases b with
      | array => exact compare_eq_iff_eq.2 rfl
      | _ => cases hform
  | record =>
      cases b with
      | record => exact compare_eq_iff_eq.2 rfl
      | _ => cases hform

/-- The absent value is sorted before all others. -/
theorem null_sortOrder (b : Value) : null.sortOrder b = compare null.rank b.rank := by
  cases b <;> rfl

theorem sortOrder_null (a : Value) : a.sortOrder null = compare a.rank null.rank := by
  cases a <;> rfl

/-- Values are sorted by rank. -/
theorem sortOrder_eq (a b : Value) : a.sortOrder b = compare a.rank b.rank := by
  cases ha : a.isNull with
  | true =>
      cases a with
      | null => exact null_sortOrder b
      | _ => cases ha
  | false =>
      cases hb : b.isNull with
      | true =>
          cases b with
          | null => exact sortOrder_null a
          | _ => cases hb
      | false =>
          have hnull : a.isNull = b.isNull := ha.trans hb.symm
          by_cases hkind : a.kindName = b.kindName
          · rw [sortOrder_of_eq ha hb hkind, compare_rank_of_eq hnull hkind]
          · rw [sortOrder_of_ne ha hb hkind, compare_rank_of_ne hnull hkind]

end Value

end Elementwise
