import Elementwise.Proofs.Soundness.Value
import Elementwise.Value.Order
import Mathlib.Algebra.Order.Field.Rat
import Mathlib.Data.Int.Cast.Lemmas
import Mathlib.Tactic.FieldSimp

/-!
The exact numbers that values stand for.  Words, characters and decimals stand for one each, a
character for its code; days of the week stand for their numbers.  Within one kind, order and
equality are those of the exact numbers.
-/

namespace Elementwise

namespace Decimal

theorem denominator_pos (d : Decimal) : 0 < d.denominator :=
  Nat.pow_pos (by decide)

/-- The number that a decimal stands for. -/
def toRat (d : Decimal) : ℚ :=
  d.numerator / d.denominator

/-- The order of decimals, which multiplies crosswise, is the order of the numbers. -/
theorem compare_eq (a b : Decimal) : a.compare b = compare a.toRat b.toRat := by
  have ha : (0 : ℚ) < a.denominator := Nat.cast_pos.2 a.denominator_pos
  have hb : (0 : ℚ) < b.denominator := Nat.cast_pos.2 b.denominator_pos
  have hcast : StrictMono (Int.cast : Int → ℚ) := Int.cast_strictMono
  -- each cross product is a side multiplied by both denominators
  have hleft : a.toRat * (a.denominator * b.denominator) =
      ((a.numerator * b.denominator : Int) : ℚ) := by
    rw [toRat]
    push_cast
    field_simp
  have hright : b.toRat * (a.denominator * b.denominator) =
      ((b.numerator * a.denominator : Int) : ℚ) := by
    rw [toRat]
    push_cast
    field_simp
  calc
    a.compare b = cmp (a.numerator * b.denominator) (b.numerator * a.denominator) :=
      (cmp_eq_compare _ _).symm
    _ = cmp (a.toRat * (a.denominator * b.denominator))
        (b.toRat * (a.denominator * b.denominator)) := by
      rw [hleft, hright, hcast.cmp_map_eq]
    _ = cmp a.toRat b.toRat := cmp_mul_pos_right (mul_pos ha hb) _ _
    _ = compare a.toRat b.toRat := cmp_eq_compare _ _

theorem sameNumber_eq (a b : Decimal) : a.sameNumber b = decide (a.toRat = b.toRat) := by
  rw [sameNumber, compare_eq, Bool.eq_iff_iff, beq_iff_eq, compare_eq_iff_eq, decide_eq_true_iff]

/-- An integer that is no longer than a coefficient is a decimal. -/
theorem exists_ofInt? {n : Int} (hn : n.natAbs < coefficientBound) :
    ∃ d, ofInt? n = some d ∧ d.toRat = n := by
  refine ⟨⟨n < 0, n.natAbs, 0, hn, Nat.zero_le _⟩, dif_pos ⟨hn, Nat.zero_le _⟩, ?_⟩
  have hnumerator : (if decide (n < 0) = true then -(n.natAbs : Int) else n.natAbs) = n := by
    simp only [decide_eq_true_iff]
    split <;> omega
  rw [toRat, numerator, hnumerator, denominator]
  simp

end Decimal

namespace Number

variable {m n : Number} {x y : Int} {p q : ℚ}

/-- The number that a number stands for, unless it is binary floating point. -/
def toRat? : Number → Option ℚ
  | decimal d => some d.toRat
  | n => n.integer?.map fun x => (x : ℚ)

theorem toRat?_of_integer? (h : n.integer? = some x) : n.toRat? = some (x : ℚ) := by
  cases n with
  | char c | word k w =>
      cases h
      rfl
  | single | double | decimal => cases h

theorem exists_integer? (hn : n.kind.integral = true) : ∃ x, n.integer? = some x := by
  cases n with
  | char | word => exact ⟨_, rfl⟩
  | single | double | decimal => cases hn

theorem compare_map {α β : Type} [LinearOrder α] [LinearOrder β] {f : α → β} (hf : StrictMono f)
    (a b : α) : compare (f a) (f b) = compare a b := by
  rw [← cmp_eq_compare, ← cmp_eq_compare, hf.cmp_map_eq]

/-- Numbers of one kind are in the order of what they stand for. -/
theorem compare?_eq (hkind : m.kind = n.kind) (hm : m.toRat? = some p) (hn : n.toRat? = some q) :
    m.compare? n = some (compare p q) := by
  cases m with
  | char a =>
      cases n with
      | char b =>
          cases hm
          cases hn
          exact congrArg some (compare_map (Int.cast_strictMono.comp Nat.strictMono_cast) _ _).symm
      | _ => cases hkind
  | word j a =>
      cases n with
      | word k b =>
          cases hkind
          cases hm
          cases hn
          rw [compare?, if_pos rfl, compare_map Int.cast_strictMono]
      | _ => cases hkind
  | decimal a =>
      cases n with
      | decimal b =>
          cases hm
          cases hn
          rw [compare?, Decimal.compare_eq]
      | _ => cases hkind
  | single | double => cases hm

/-- Numbers of one kind are the same if they stand for the same number. -/
theorem same_eq (hkind : m.kind = n.kind) (hm : m.toRat? = some p) (hn : n.toRat? = some q) :
    m.same n = decide (p = q) := by
  cases m with
  | char a =>
      cases n with
      | char b =>
          cases hm
          cases hn
          rw [same, Bool.eq_iff_iff, beq_iff_eq, decide_eq_true_iff, Int.cast_inj, Int.natCast_inj,
            Char.toNat_inj]
      | _ => cases hkind
  | word j a =>
      cases n with
      | word k b =>
          cases hkind
          cases hm
          cases hn
          rw [same, beq_self_eq_true, Bool.true_and, Bool.eq_iff_iff, beq_iff_eq,
            decide_eq_true_iff, Int.cast_inj]
      | _ => cases hkind
  | decimal a =>
      cases n with
      | decimal b =>
          cases hm
          cases hn
          exact Decimal.sameNumber_eq a b
      | _ => cases hkind
  | single | double => cases hm

end Number

/-! ### Values -/

namespace Ty

/-- Numbers of an integral kind, and days of the week. -/
def isWhole : Ty → Bool
  | numeric k => k.integral
  | dayOfWeek => true
  | _ => false

/-- Whole numbers and decimals. -/
def isExact (t : Ty) : Bool :=
  t.isWhole || t = decimal

theorem isExact_cases {t : Ty} (h : t.isExact = true) : (∃ k, t = numeric k) ∨ t = dayOfWeek := by
  cases t with
  | numeric k => exact Or.inl ⟨k, rfl⟩
  | dayOfWeek => exact Or.inr rfl
  | _ => cases h

end Ty

namespace Value

variable {v w : Value} {t : Ty} {p q : ℚ}

/-- The number that a value stands for, if it is an exact number or a day of the week. -/
def toRat? : Value → Option ℚ
  | number n => n.toRat?
  | dayOfWeek w => some (w.val : ℚ)
  | _ => none

/-- Exact numbers have no parts that conforming does not look at. -/
theorem hasType_of_isExact (ht : t.isExact = true) (hv : v.conformsTo t = true) : v.HasType t := by
  refine ⟨hv, ?_⟩
  rcases Ty.isExact_cases ht with ⟨k, rfl⟩ | rfl
  · cases v with
    | number => rfl
    | _ => cases hv
  · cases v with
    | dayOfWeek => rfl
    | _ => cases hv

theorem exists_integer (ht : t.isWhole = true) (hv : v.HasType t) :
    ∃ x : Int, v.toRat? = some (x : ℚ) := by
  cases t with
  | numeric k =>
      obtain ⟨n, rfl, rfl⟩ := hasType_numeric.1 hv
      obtain ⟨x, hx⟩ := Number.exists_integer? ht
      exact ⟨x, Number.toRat?_of_integer? hx⟩
  | dayOfWeek =>
      obtain ⟨w, rfl⟩ := hasType_dayOfWeek.1 hv
      exact ⟨w.val, rfl⟩
  | _ => cases ht

theorem exists_toRat? (ht : t.isExact = true) (hv : v.HasType t) : ∃ p, v.toRat? = some p := by
  rw [Ty.isExact, Bool.or_eq_true, decide_eq_true_iff] at ht
  rcases ht with ht | rfl
  · obtain ⟨x, hx⟩ := exists_integer ht hv
    exact ⟨x, hx⟩
  · obtain ⟨d, rfl⟩ := hasType_decimal.1 hv
    exact ⟨d.toRat, rfl⟩

section Order

variable (ht : t.isExact = true) (hv : v.HasType t) (hw : w.HasType t) (hp : v.toRat? = some p)
  (hq : w.toRat? = some q)
include ht hv hw hp hq

theorem compare?_eq : v.compare? w = some (compare p q) := by
  rcases Ty.isExact_cases ht with ⟨k, rfl⟩ | rfl
  · obtain ⟨m, rfl, rfl⟩ := hasType_numeric.1 hv
    obtain ⟨n, rfl, hkind⟩ := hasType_numeric.1 hw
    exact Number.compare?_eq hkind.symm hp hq
  · obtain ⟨a, rfl⟩ := hasType_dayOfWeek.1 hv
    obtain ⟨b, rfl⟩ := hasType_dayOfWeek.1 hw
    cases hp
    cases hq
    exact congrArg some (Number.compare_map Int.cast_strictMono _ _).symm

theorem same_eq : v.same w = decide (p = q) := by
  rcases Ty.isExact_cases ht with ⟨k, rfl⟩ | rfl
  · obtain ⟨m, rfl, rfl⟩ := hasType_numeric.1 hv
    obtain ⟨n, rfl, hkind⟩ := hasType_numeric.1 hw
    rw [same, Number.same_eq hkind.symm hp hq]
  · obtain ⟨a, rfl⟩ := hasType_dayOfWeek.1 hv
    obtain ⟨b, rfl⟩ := hasType_dayOfWeek.1 hw
    cases hp
    cases hq
    rw [same, Bool.eq_iff_iff, beq_iff_eq, decide_eq_true_iff, Int.cast_inj, Number.Word.ext_iff]

end Order

end Value

end Elementwise
