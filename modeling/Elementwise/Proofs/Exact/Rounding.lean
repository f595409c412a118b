import Elementwise.Decimal.Reading
import Elementwise.Proofs.Exact.Number
import Mathlib.Algebra.Group.Int.Even
import Mathlib.Data.Rat.Floor
import Mathlib.Tactic.Linarith
import Mathlib.Tactic.Positivity

/-!
The integers that a decimal is rounded and truncated to, in terms of the number that it stands for.
The coefficient is divided without the sign; a tie goes to the even neighbour on either side of zero,
and the fraction is cut toward zero.  Each number has one decimal without zeros at the end of its
fraction, which `normalize` finds.
-/

namespace Elementwise

/-! ### Rounding to integers -/

/-- The integer is nearest to the number; of two that are equally near it is the even one. -/
def IsNearestEven (q : ℚ) (n : Int) : Prop :=
  |q - n| ≤ 1 / 2 ∧ (|q - n| = 1 / 2 → Even n)

/-- The number without its fraction. -/
def truncation (q : ℚ) : Int :=
  if 0 ≤ q then ⌊q⌋ else ⌈q⌉

theorem truncation_intCast (n : Int) : truncation n = n := by
  unfold truncation
  split
  · exact Int.floor_intCast n
  · exact Int.ceil_intCast n

theorem truncation_neg (q : ℚ) : truncation (-q) = -truncation q := by
  unfold truncation
  rcases lt_trichotomy q 0 with hneg | rfl | hpos
  · rw [if_pos (neg_nonneg.2 hneg.le), if_neg (not_le.2 hneg), Int.floor_neg]
  · simp
  · rw [if_neg (not_le.2 (neg_neg_of_pos hpos)), if_pos hpos.le, Int.ceil_neg]

namespace IsNearestEven

variable {q : ℚ} {n : Int}

theorem intCast (n : Int) : IsNearestEven n n := by
  rw [IsNearestEven, sub_self, abs_zero]
  exact ⟨by norm_num, fun h => by norm_num at h⟩

theorem neg (h : IsNearestEven q n) : IsNearestEven (-q) (-n) := by
  have habs : |-q - ((-n : Int) : ℚ)| = |q - n| := by
    rw [← abs_neg]
    push_cast
    congr 1
    ring
  rw [IsNearestEven, habs]
  exact ⟨h.1, fun htie => (h.2 htie).neg⟩

/-- An integer is nearest to itself only. -/
theorem eq_of_intCast {m : Int} (h : IsNearestEven m n) : n = m := by
  have hlt : |((m - n : Int) : ℚ)| < 1 := by
    push_cast
    linarith [h.1]
  have habs : |m - n| < 1 := by exact_mod_cast hlt
  have hzero := Int.abs_lt_one_iff.1 habs
  omega

end IsNearestEven

/-! ### Quotients -/

/-- To be nearest to a quotient in terms of what is left of the dividend. -/
theorem isNearestEven_div_iff {num n : Int} {den : Nat} (hden : 0 < den) :
    IsNearestEven (num / den) n ↔
      2 * |num - n * den| ≤ den ∧ (2 * |num - n * den| = den → Even n) := by
  have hden' : (0 : ℚ) < den := Nat.cast_pos.2 hden
  have hrest : |(num / den - n : ℚ)| = ((|num - n * den| : Int) : ℚ) / den := by
    rw [div_sub' hden'.ne', abs_div, abs_of_pos hden', mul_comm (den : ℚ)]
    push_cast
    rfl
  have hle : ((|num - n * den| : Int) : ℚ) / den ≤ 1 / 2 ↔ 2 * |num - n * den| ≤ den := by
    rw [div_le_div_iff₀ hden' two_pos, one_mul, mul_comm]
    exact_mod_cast Iff.rfl
  have heq : ((|num - n * den| : Int) : ℚ) / den = 1 / 2 ↔ 2 * |num - n * den| = den := by
    rw [div_eq_div_iff hden'.ne' two_ne_zero, one_mul, mul_comm]
    exact_mod_cast Iff.rfl
  rw [IsNearestEven, hrest, hle, heq]

theorem isNearestEven_divEven (num : Nat) {den : Nat} (hden : 0 < den) :
    IsNearestEven (num / den) (Number.divEven num den) := by
  have hlt : num % den < den := Nat.mod_lt _ hden
  have hnum : den * (num / den) + num % den = num := Nat.div_add_mod num den
  rw [← Int.cast_natCast num, isNearestEven_div_iff hden]
  rw [Number.divEven]
  generalize num / den = whole at hnum ⊢
  generalize num % den = rest at hlt hnum ⊢
  subst hnum
  have hself : ((den * whole + rest : Nat) : Int) - (whole : Nat) * den = rest := by
    push_cast
    ring
  have hnext : ((den * whole + rest : Nat) : Int) - (whole + 1 : Nat) * den = rest - den := by
    push_cast
    ring
  have hrest : |(rest : Int)| = rest := abs_of_nonneg (Int.natCast_nonneg rest)
  have hrest' : |(rest : Int) - den| = den - rest := by
    rw [abs_of_neg (by omega), neg_sub]
  rcases lt_trichotomy (2 * rest) den with hbelow | htie | habove
  · rw [if_pos hbelow, hself, hrest]
    exact ⟨by omega, fun h => absurd h (by omega)⟩
  · rw [if_neg htie.not_lt, if_neg htie.symm.not_lt]
    rcases Nat.even_or_odd whole with heven | hodd
    · rw [Nat.even_iff.1 heven, add_zero, hself, hrest]
      exact ⟨by omega, fun _ => (Int.even_coe_nat whole).2 heven⟩
    · rw [Nat.odd_iff.1 hodd, hnext, hrest']
      exact ⟨by omega, fun _ => (Int.even_coe_nat (whole + 1)).2 hodd.add_one⟩
  · rw [if_neg habove.not_gt, if_pos habove, hnext, hrest']
    exact ⟨by omega, fun h => absurd h (by omega)⟩

/-! ### Decimals -/

namespace Decimal

variable (d : Decimal)

/-- The number without its sign. -/
theorem toRat_eq : d.toRat = if d.negative then -(d.coefficient / d.denominator : ℚ)
    else d.coefficient / d.denominator := by
  rw [toRat, numerator]
  split
  · push_cast
    rw [neg_div]
  · rfl

theorem toInt_eq : d.toInt = if d.negative then -((d.coefficient / d.denominator : Nat) : Int)
    else (d.coefficient / d.denominator : Nat) :=
  rfl

/-- The whole part is what is left without the fraction. -/
theorem toInt_eq_truncation : d.toInt = truncation d.toRat := by
  have hwhole : truncation ((d.coefficient : ℚ) / d.denominator) =
      (d.coefficient / d.denominator : Nat) := by
    rw [truncation, if_pos (by positivity)]
    exact Rat.floor_natCast_div_natCast _ _
  rw [toInt_eq, toRat_eq]
  split
  · rw [truncation_neg, hwhole]
  · exact hwhole.symm

variable {d}

theorem denominator_of_scale (h : d.scale = 0) : d.denominator = 1 := by
  rw [denominator, h]

theorem toInt_of_scale (h : d.scale = 0) : d.toInt = d.numerator := by
  rw [toInt_eq, denominator_of_scale h, Nat.div_one]
  rfl

theorem toRat_of_scale (h : d.scale = 0) : d.toRat = d.numerator := by
  rw [toRat, denominator_of_scale h, Nat.cast_one, div_one]

theorem numerator_unsignZero (d : Decimal) : d.unsignZero.numerator = d.numerator := by
  rw [numerator, numerator, unsignZero, isZero]
  by_cases hzero : d.coefficient = 0
  · simp [hzero]
  · simp [hzero]

theorem unsignZero_negative (h : d.coefficient = 0) : d.unsignZero.negative = false := by
  show (d.negative && !(d.coefficient == 0)) = false
  rw [h]
  exact Bool.and_false _

/-- Rounding to no places gives the nearest integer, the sign being put on last. -/
theorem isNearestEven_roundTo (d : Decimal) : IsNearestEven d.toRat (d.roundTo 0).toInt := by
  unfold roundTo
  split
  · rename_i hzero
    have hcoefficient : d.coefficient = 0 := beq_iff_eq.1 hzero.1
    have hrat : d.toRat = (0 : Int) := by
      simp [toRat_eq, hcoefficient]
    rw [toInt_of_scale rfl, hrat, numerator]
    simp only [hcoefficient, Nat.cast_zero, neg_zero, ite_self]
    exact .intCast 0
  · split
    · have hnearest := isNearestEven_divEven d.coefficient d.denominator_pos
      rw [toInt_of_scale rfl, numerator_unsignZero, numerator, toRat_eq]
      dsimp only
      cases d.negative with
      | false => exact hnearest
      | true => exact hnearest.neg
    · rename_i hscale
      have hscale : d.scale = 0 := Nat.eq_zero_of_not_pos hscale
      rw [toInt_of_scale hscale, toRat_of_scale hscale]
      exact .intCast _

/-! ### Zeros at the end of the fraction -/

section Trimmed

variable {a b : Decimal}

/-- There is no zero at the end of the fraction, and zero has no sign. -/
structure IsTrimmed (d : Decimal) : Prop where
  last : d.scale = 0 ∨ d.coefficient % 10 ≠ 0
  sign : d.coefficient = 0 → d.negative = false

theorem denominator_eq (d : Decimal) : (d.denominator : ℚ) = 10 ^ d.scale := by
  rw [denominator, Nat.pow_eq]
  push_cast
  rfl

/-- The number without its sign. -/
theorem abs_toRat (d : Decimal) : |d.toRat| = d.coefficient / 10 ^ d.scale := by
  have hpos : (0 : ℚ) ≤ d.coefficient / 10 ^ d.scale := by positivity
  rw [toRat_eq, denominator_eq]
  split
  · rw [abs_neg, abs_of_nonneg hpos]
  · exact abs_of_nonneg hpos

/-- The sign of a decimal other than zero is that of its number. -/
theorem toRat_neg_iff (hpos : 0 < d.coefficient) : d.toRat < 0 ↔ d.negative = true := by
  have hcoefficient : (0 : ℚ) < d.coefficient := by exact_mod_cast hpos
  have hden : (0 : ℚ) < d.denominator := by exact_mod_cast d.denominator_pos
  have hquotient : (0 : ℚ) < d.coefficient / d.denominator := div_pos hcoefficient hden
  rw [toRat_eq]
  split
  · rename_i hneg
    exact ⟨fun _ => hneg, fun _ => neg_neg_of_pos hquotient⟩
  · rename_i hneg
    exact ⟨fun h => absurd h hquotient.not_gt, fun h => absurd h hneg⟩

/-- Without zeros at the end the scale cannot be less than another one of the same number. -/
theorem IsTrimmed.scale_le (hb : b.IsTrimmed) (h : a.coefficient * 10 ^ b.scale = b.coefficient * 10 ^ a.scale) :
    b.scale ≤ a.scale := by
  by_contra hlt
  obtain ⟨k, hk⟩ := Nat.exists_eq_add_of_lt (Nat.lt_of_not_le hlt)
  have hcancel : a.coefficient * 10 ^ (k + 1) = b.coefficient := by
    refine Nat.eq_of_mul_eq_mul_right (Nat.pow_pos (by decide : 0 < 10) : 0 < 10 ^ a.scale) ?_
    rw [← h, hk, Nat.mul_assoc, ← pow_add]
    congr 2
    omega
  refine hb.last.elim (by omega) fun hlast => hlast ?_
  rw [← hcancel, pow_succ, ← Nat.mul_assoc, Nat.mul_mod_left]

/-- A number has one decimal without zeros at its end. -/
theorem IsTrimmed.unique (ha : a.IsTrimmed) (hb : b.IsTrimmed) (h : a.toRat = b.toRat) : a = b := by
  have hcross : a.coefficient * 10 ^ b.scale = b.coefficient * 10 ^ a.scale := by
    have habs : |a.toRat| = |b.toRat| := by rw [h]
    rw [abs_toRat, abs_toRat, div_eq_div_iff (by positivity) (by positivity)] at habs
    exact_mod_cast habs
  have hscale : a.scale = b.scale := Nat.le_antisymm (ha.scale_le hcross.symm) (hb.scale_le hcross)
  have hcoefficient : a.coefficient = b.coefficient := by
    rw [hscale] at hcross
    exact Nat.eq_of_mul_eq_mul_right (Nat.pow_pos (by decide)) hcross
  have hnegative : a.negative = b.negative := by
    rcases Nat.eq_zero_or_pos a.coefficient with hzero | hpos
    · rw [ha.sign hzero, hb.sign (hcoefficient ▸ hzero)]
    · rw [Bool.eq_iff_iff, ← toRat_neg_iff hpos, ← toRat_neg_iff (hcoefficient ▸ hpos), h]
  obtain ⟨sa, ca, pa, _, _⟩ := a
  obtain ⟨sb, cb, pb, _, _⟩ := b
  dsimp only at hscale hcoefficient hnegative
  subst hscale hcoefficient hnegative
  rfl

/-- What is taken away from the coefficient is zeros. -/
theorem normalize_go (d : Decimal) (n scale : Nat) (hn : n < coefficientBound)
    (hs : scale ≤ maxScale) (hpos : 0 < n) :
    (normalize.go d n scale hn hs).IsTrimmed ∧
      (normalize.go d n scale hn hs).coefficient * 10 ^ scale =
        n * 10 ^ (normalize.go d n scale hn hs).scale ∧
      (normalize.go d n scale hn hs).negative = d.negative := by
  induction scale generalizing n with
  | zero => exact ⟨⟨Or.inl rfl, fun h => absurd h hpos.ne'⟩, rfl, rfl⟩
  | succ scale ih =>
      rw [normalize.go]
      split
      · rename_i hlast
        have hten : n / 10 * 10 = n := Nat.div_mul_cancel (Nat.dvd_of_mod_eq_zero hlast)
        obtain ⟨htrimmed, hsame, hsign⟩ := ih (n / 10) (Nat.lt_of_le_of_lt (Nat.div_le_self _ _) hn)
          (Nat.le_trans (Nat.le_succ _) hs) (by omega)
        refine ⟨htrimmed, ?_, hsign⟩
        rw [pow_succ, ← Nat.mul_assoc, hsame, Nat.mul_right_comm, hten]
      · rename_i hlast
        exact ⟨⟨Or.inr hlast, fun h => absurd h hpos.ne'⟩, rfl, rfl⟩

theorem isTrimmed_normalize (d : Decimal) : d.normalize.IsTrimmed := by
  rw [normalize]
  split
  · exact ⟨Or.inl rfl, fun _ => rfl⟩
  · rename_i hne
    exact (normalize_go d _ _ _ _ (Nat.pos_of_ne_zero fun h => hne (beq_iff_eq.2 h))).1

theorem toRat_normalize (d : Decimal) : d.normalize.toRat = d.toRat := by
  rw [normalize]
  split
  · rename_i hzero
    have hcoefficient : d.coefficient = 0 := beq_iff_eq.1 hzero
    simp [toRat_eq, hcoefficient, zero]
  · rename_i hne
    obtain ⟨-, hsame, hsign⟩ := normalize_go d d.coefficient d.scale d.coefficient_lt d.scale_le
      (Nat.pos_of_ne_zero fun h => hne (beq_iff_eq.2 h))
    generalize normalize.go d d.coefficient d.scale d.coefficient_lt d.scale_le = trimmed at hsame hsign
    have hquotient : (trimmed.coefficient : ℚ) / trimmed.denominator = d.coefficient / d.denominator := by
      rw [denominator_eq, denominator_eq, div_eq_div_iff (by positivity) (by positivity)]
      exact_mod_cast hsame
    rw [toRat_eq, toRat_eq, hsign, hquotient]

/-- The decimal without zeros at its end is the only one of its number. -/
theorem IsTrimmed.eq_normalize (h : b.IsTrimmed) (heq : b.toRat = d.toRat) : b = d.normalize :=
  h.unique d.isTrimmed_normalize (heq.trans d.toRat_normalize.symm)

/-- Taking zeros off does not change the number. -/
theorem sameNumber_normalize (d : Decimal) : d.sameNumber d.normalize = true := by
  rw [sameNumber_eq, d.toRat_normalize, decide_eq_true rfl]

end Trimmed

end Decimal

end Elementwise
