import Elementwise.Decimal.Binary
import Elementwise.Proofs.Exact.Rounding
import Elementwise.Proofs.Number.Arithmetic
import Elementwise.Proofs.Number.Digits

/-!
Decimals as doubles.  An integer of the length of a double is made into that double.  Otherwise the whole
part, the fraction and the power of ten of the scale are made apart, and their sum is scaled and rounded to
an integer; for fifteen digits the errors of these steps are less than half a unit, so the integer is the
coefficient, and the result is the double nearest to the decimal.
-/

namespace Elementwise

open Number

namespace Number

variable {x : Float} {s : Bool} {m : Nat} {e : Int} {q : ℚ}

theorem Format.Rounds.neg {f : Format} {b : Binary} (h : f.Rounds s q b) :
    f.Rounds (!s) q b.opposite := by
  cases h with
  | finite hlt hholds hnearest => exact .finite hlt hholds hnearest
  | infinite hle => exact .infinite hle

/-- What is rounded is a number. -/
theorem isNaN_of_rounds (h : Format.double.Rounds s q (Binary.ofFloat x)) : x.isNaN = false := by
  have hnan : Binary.ofFloat Float.nan = .nan := by decide
  rw [Float.isNaN_eq_decide_eq_nan, decide_eq_false_iff_not]
  rintro rfl
  rw [hnan] at h
  cases h

/-- Numbers far from both ends of the range are rounded with a small error. -/
theorem exists_of_rounds (h : Format.double.Rounds s q (Binary.ofFloat x))
    (hlow : 1 / 10 ^ 30 ≤ q) (hhigh : q ≤ 10 ^ 30) : ∃ m e, Binary.ofFloat x = .finite s m e ∧ 0 < m ∧
      |q - m * 2 ^ e| ≤ q / 2 ^ 53 := by
  have hprecision : Format.double.precision = 53 := rfl
  have hpos : 0 < q := lt_of_lt_of_le (by positivity) hlow
  have hten : (10 : ℚ) ^ 30 ≤ 2 ^ (100 : Int) := by norm_num
  have hlarge : (10 : ℚ) ^ 30 < Format.double.overflow := by
    calc (10 : ℚ) ^ 30 ≤ 2 ^ (100 : Int) := hten
      _ < 2 ^ Format.double.maxExponent := zpow_lt_zpow_right₀ one_lt_two (by decide)
      _ ≤ Format.double.overflow := by
          refine le_mul_of_one_le_left (by positivity) ?_
          rw [hprecision]
          norm_num
  have hnormal : (2 : ℚ) ^ (Format.double.precision - 1) * 2 ^ Format.double.minExponent ≤ q := by
    calc (2 : ℚ) ^ (Format.double.precision - 1) * 2 ^ Format.double.minExponent
        = 2 ^ (-1022 : Int) := by
          rw [← zpow_natCast, ← zpow_add₀ two_ne_zero]
          rfl
      _ ≤ 2 ^ (-100 : Int) := zpow_le_zpow_right₀ one_le_two (by decide)
      _ ≤ 1 / 10 ^ 30 := by
          rw [zpow_neg, one_div]
          exact inv_anti₀ (by positivity) hten
      _ ≤ q := hlow
  have hfinite := h.isFinite_iff.2 (hhigh.trans_lt hlarge)
  generalize Binary.ofFloat x = b at h hfinite ⊢
  cases h with
  | infinite => cases hfinite
  | @finite m e hlt hholds hnearest =>
      have hround : Format.double.Rounds s q (.finite s m e) := .finite hlt hholds hnearest
      have herror := hround.abs_sub_le (by decide) (by decide) hnormal
      rw [hprecision] at herror
      refine ⟨m, e, rfl, Nat.pos_of_ne_zero ?_, herror⟩
      rintro rfl
      rw [Nat.cast_zero, zero_mul, sub_zero, abs_of_pos hpos] at herror
      have hsmall : q / 2 ^ 53 < q := div_lt_self hpos (by norm_num)
      linarith

/-- The nearest integer, of a number that is nearer to it than half. -/
theorem divHalfUp_eq {num den k : Nat} (hden : 0 < den) (h : |(num : ℚ) / den - k| < 1 / 2) :
    divHalfUp num den = k := by
  have hden' : (0 : ℚ) < den := by exact_mod_cast hden
  obtain ⟨hlow, hhigh⟩ := abs_lt.1 h
  have hle : (k : ℚ) * (2 * den) ≤ 2 * num + den := by
    have hscaled : ((k : ℚ) - 1 / 2) * den ≤ num := (le_div_iff₀ hden').1 (by linarith)
    linarith
  have hlt : (2 * num + den : ℚ) < (k + 1) * (2 * den) := by
    have hscaled : (num : ℚ) < (k + 1 / 2) * den := (div_lt_iff₀ hden').1 (by linarith)
    linarith
  refine Nat.div_eq_of_lt_le ?_ ?_
  · exact_mod_cast hle
  · exact_mod_cast hlt

theorem floatOfInt_natCast (k : Nat) : floatOfInt k = (Format.double.nearest false k 1).toFloat := by
  have hneg : decide ((k : Int) < 0) = false := decide_eq_false (by omega)
  rw [floatOfInt, Format.ofInt, hneg, Int.natAbs_natCast]

theorem roundHalfAway_eq {k : Nat} (hx : Binary.ofFloat x = .finite false m e)
    (h : |(m : ℚ) * 2 ^ e - k| < 1 / 2) : Decimal.roundHalfAway x = floatOfInt k := by
  rw [← Format.fraction_value] at h
  rw [Decimal.roundHalfAway, hx, floatOfInt_natCast]
  dsimp only
  rw [divHalfUp_eq (Format.fraction_pos m e) h]

/-- Powers of ten up to 22 are held as such. -/
theorem ofFloat_tenPower {n : Nat} (hn : n ≤ 22) : ∃ m e,
    Binary.ofFloat (floatOfInt (Nat.pow 10 n : Nat)) = .finite false m e ∧ 0 < m ∧
      (m : ℚ) * 2 ^ e = 10 ^ n := by
  have hfives : 5 ^ n < 9007199254740992 :=
    Nat.lt_of_le_of_lt (Nat.pow_le_pow_right (by decide) hn) (by decide)
  obtain ⟨m, e, hholds, hm, hvalue⟩ := Format.exists_double (e := n) (by positivity) hfives
    (by omega) (by omega)
  have hten : (m : ℚ) * 2 ^ e = 10 ^ n := by
    rw [hvalue, zpow_natCast]
    push_cast
    rw [← mul_pow]
    norm_num
  refine ⟨m, e, ?_, hm, hten⟩
  have hself := Format.ofInt_of_value (s := false) (k := Nat.pow 10 n) (by decide) hholds hm
    (by rw [hten, Nat.pow_eq]; push_cast; rfl)
  rw [← ofFloat_toFloat hholds, ← hself]
  rfl

theorem powerOfTen_eq : ∀ n < 23, Decimal.powerOfTen n = floatOfInt (Nat.pow 10 n : Nat) := by
  decide

theorem beq_zero_of_pos (hx : Binary.ofFloat x = .finite s m e) (hm : 0 < m) : (x == 0) = false := by
  cases hzero : x == 0 with
  | false => rfl
  | true =>
    have hself := unsignZero_of_pos hx hm
    have hbinary : Binary.ofFloat 0 = .finite false 0 Format.double.minExponent := by decide
    rw [unsignZero, if_pos hzero] at hself
    rw [← hself, hbinary] at hx
    cases hx
    exact absurd hm (Nat.lt_irrefl 0)

end Number

namespace Decimal

variable {d : Decimal}

/-! ### Integers among decimals -/

theorem mod_eq_zero (hfraction : d.hasFraction = false) : d.coefficient % d.denominator = 0 :=
  bne_eq_false_iff_eq.1 hfraction

theorem coefficient_eq (hfraction : d.hasFraction = false) :
    d.coefficient = d.truncate.coefficient * d.denominator :=
  (Nat.div_mul_cancel (Nat.dvd_of_mod_eq_zero (mod_eq_zero hfraction))).symm

/-- An integer without its scale has no zeros at its end. -/
theorem unsignZero_truncate (hfraction : d.hasFraction = false) :
    d.truncate.unsignZero = d.normalize := by
  have hnumerator : d.numerator = d.truncate.numerator * d.denominator := by
    rw [numerator, numerator, coefficient_eq hfraction]
    cases hneg : d.negative <;> simp [truncate, hneg]
  have hden : (d.denominator : ℚ) ≠ 0 := Nat.cast_ne_zero.2 d.denominator_pos.ne'
  refine IsTrimmed.eq_normalize ⟨Or.inl rfl, fun h => unsignZero_negative h⟩ ?_
  rw [toRat_of_scale rfl, numerator_unsignZero, toRat, hnumerator]
  push_cast
  rw [mul_div_cancel_right₀ _ hden]

/-- The decimal of an integer has no scale, and zero has no sign. -/
theorem ofInt?_signedInt {s : Bool} (d : Decimal) (hscale : d.scale = 0)
    (hs : 0 < d.coefficient → s = d.negative) :
    ofInt? (Format.signedInt s d.coefficient) = some d.unsignZero := by
  have hnegative : decide (Format.signedInt s d.coefficient < 0) = (d.negative && !d.isZero) := by
    rcases Nat.eq_zero_or_pos d.coefficient with hzero | hpos
    · rw [isZero, hzero]
      cases s <;> simp [Format.signedInt]
    · rw [Format.signedInt_neg hpos, hs hpos, isZero, beq_eq_false_iff_ne.2 hpos.ne']
      simp
  rw [ofInt?, Format.natAbs_signedInt, hnegative, ofParts?,
    dif_pos ⟨d.coefficient_lt, Nat.zero_le _⟩, unsignZero]
  simp only [hscale]

/-! ### Integers as doubles -/

/-- Zero divided by a power of ten is zero. -/
theorem zero_div_powerOfTen : ∀ scale < maxScale + 1,
    (floatOfInt 0 / floatOfInt (Nat.pow 10 scale : Nat) == 0) = true := by
  decide

theorem toFloat_of_scale (hfraction : d.hasFraction = false) (hscale : d.scale ≠ 0) :
    d.toFloat = if d.negative then -floatOfInt d.truncate.coefficient
      else floatOfInt d.truncate.coefficient := by
  have hzero := zero_div_powerOfTen d.scale (Nat.lt_succ_of_le d.scale_le)
  have hmod : (d.coefficient % d.denominator : Int) = 0 := by
    exact_mod_cast mod_eq_zero hfraction
  have hdiv : (d.coefficient / d.denominator : Int) = d.truncate.coefficient := rfl
  -- the whole part and the fraction are made apart, and the fraction is zero
  rw [toFloat, if_neg hscale, hmod, hdiv]
  dsimp only
  rw [denominator, if_pos hzero]

/-- An integer of the length of a double is made into that double. -/
theorem ofFloat_toFloat (hfraction : d.hasFraction = false)
    (hsmall : d.truncate.coefficient < 9007199254740992) :
    ∃ s m e, Binary.ofFloat d.toFloat = .finite s m e ∧
      (d.truncate.coefficient : ℚ) = m * 2 ^ e ∧
      (0 < d.truncate.coefficient → s = d.negative) := by
  by_cases hscale : d.scale = 0
  · have htruncate : d.truncate.coefficient = d.coefficient := by
      rw [coefficient_eq hfraction, denominator, hscale]
      exact (Nat.mul_one _).symm
    rw [htruncate] at hsmall ⊢
    obtain ⟨m, e, hx, hvalue⟩ := ofFloat_floatOfInt d.negative hsmall
    rw [toFloat, if_pos hscale]
    refine ⟨_, m, e, hx, hvalue, fun hpos => ?_⟩
    rw [bne_iff_ne.2 hpos.ne', Bool.and_true]
  · obtain ⟨m, e, hx, hvalue⟩ := ofFloat_floatOfInt false hsmall
    rw [toFloat_of_scale hfraction hscale]
    cases d.negative with
    | false => exact ⟨false, m, e, hx, hvalue, fun _ => rfl⟩
    | true =>
        have hwhole : Binary.ofFloat (floatOfInt d.truncate.coefficient) = .finite false m e := hx
        refine ⟨true, m, e, ?_, hvalue, fun _ => rfl⟩
        rw [if_pos rfl, ofFloat_neg (isNaN_of_finite hwhole), hwhole]
        rfl

/-! ### Fractions as doubles -/

theorem coefficient_pos (hfraction : d.hasFraction = true) : 0 < d.coefficient :=
  Nat.pos_of_ne_zero fun hzero => bne_iff_ne.1 hfraction (by rw [hzero, Nat.zero_mod])

theorem abs_mul_sub_le {a b c k : ℚ} (hc : 0 ≤ c) (h : |a - b| ≤ a / k) :
    |a * c - b * c| ≤ a * c / k := by
  rw [← sub_mul, abs_mul, abs_of_nonneg hc, mul_div_right_comm]
  exact mul_le_mul_of_nonneg_right h hc

/-- Three roundings, in units of the scale, leave the coefficient as the nearest integer. -/
theorem abs_sub_lt_half {whole rest fraction sum product : ℚ} (hwhole : 0 ≤ whole)
    (hlt : whole + rest < 10 ^ 15) (hfraction : |rest - fraction| ≤ rest / 2 ^ 53)
    (hsum : |whole + fraction - sum| ≤ (whole + fraction) / 2 ^ 53)
    (hproduct : |sum - product| ≤ sum / 2 ^ 53) : |product - (whole + rest)| < 1 / 2 := by
  obtain ⟨hfraction, hfraction'⟩ := abs_le.1 hfraction
  obtain ⟨hsum, hsum'⟩ := abs_le.1 hsum
  obtain ⟨hproduct, hproduct'⟩ := abs_le.1 hproduct
  rw [abs_lt]
  norm_num at *
  constructor <;> linarith

section Steps

variable {whole rest places : Nat} (hplaces : places ≤ 22) (hrest : 0 < rest)
  (hlt : whole * 10 ^ places + rest < 10 ^ 15)
include hplaces hrest hlt

/-- The fraction is neither too small nor too large for its place. -/
theorem fraction_bounds : 1 / 10 ^ 22 ≤ (rest : ℚ) / 10 ^ places ∧ (rest : ℚ) / 10 ^ places ≤ 10 ^ 15 := by
  have hone : (1 : ℚ) ≤ 10 ^ places := one_le_pow₀ (by norm_num)
  have hten : (10 : ℚ) ^ places ≤ 10 ^ 22 := pow_le_pow_right₀ (by norm_num) hplaces
  have hrest' : (1 : ℚ) ≤ rest := by exact_mod_cast hrest
  have hbound : (rest : ℚ) < 10 ^ 15 := by exact_mod_cast Nat.lt_of_le_of_lt (Nat.le_add_left _ _) hlt
  constructor
  · rw [div_le_div_iff₀ (by positivity) (by positivity)]
    linarith
  · rw [div_le_iff₀ (by positivity)]
    linarith

/-- The fraction is divided out with the error of one rounding. -/
theorem exists_fraction : ∃ m e,
    Binary.ofFloat (floatOfInt rest / floatOfInt (Nat.pow 10 places : Nat)) = .finite false m e ∧
      0 < m ∧ |(rest : ℚ) / 10 ^ places - m * 2 ^ e| ≤ rest / 10 ^ places / 2 ^ 53 := by
  obtain ⟨hlow, hhigh⟩ := fraction_bounds hplaces hrest hlt
  obtain ⟨m, e, hx, hxvalue⟩ := ofFloat_floatOfInt false (k := rest) (by omega)
  obtain ⟨mp, ep, hp, hmp, hpvalue⟩ := ofFloat_tenPower hplaces
  have hquotient := rounds_div hx hp hmp
  rw [← hxvalue, hpvalue] at hquotient
  exact exists_of_rounds hquotient (by linarith) (by linarith)

/-- The sum of the parts is scaled to a number that is nearer to the digits than half. -/
theorem exists_product : ∃ m e, Binary.ofFloat
    ((floatOfInt whole + floatOfInt rest / floatOfInt (Nat.pow 10 places : Nat)) *
      floatOfInt (Nat.pow 10 places : Nat)) = .finite false m e ∧
        |(m : ℚ) * 2 ^ e - (whole * 10 ^ places + rest : Nat)| < 1 / 2 := by
  obtain ⟨hlow, hhigh⟩ := fraction_bounds hplaces hrest hlt
  have hone : (1 : ℚ) ≤ 10 ^ places := one_le_pow₀ (by norm_num)
  have hden : (0 : ℚ) < 10 ^ places := by positivity
  have hrest' : (1 : ℚ) ≤ rest := by exact_mod_cast hrest
  have hlt' : (whole : ℚ) * 10 ^ places + rest < 10 ^ 15 := by exact_mod_cast hlt
  have hwhole : (whole : ℚ) ≤ whole * 10 ^ places := le_mul_of_one_le_right (Nat.cast_nonneg _) hone
  have hwhole' : (0 : ℚ) ≤ whole := Nat.cast_nonneg _
  have hsmall : whole < 9007199254740992 := by
    have hle : whole ≤ whole * 10 ^ places := Nat.le_mul_of_pos_right _ (by positivity)
    omega
  obtain ⟨mw, ew, hx, hxvalue⟩ := ofFloat_floatOfInt false hsmall
  obtain ⟨mp, ep, hp, hmp, hpvalue⟩ := ofFloat_tenPower hplaces
  -- the error of the fraction in units of the last place
  obtain ⟨mf, ef, hf, hmf, hferror⟩ := exists_fraction hplaces hrest hlt
  have hfscaled := abs_mul_sub_le hden.le hferror
  rw [div_mul_cancel₀ _ hden.ne'] at hfscaled
  have hfbounds := abs_le.1 hferror
  -- the error of the sum, and then that of the product
  have hadd := rounds_add hx hf
  rw [← hxvalue] at hadd
  obtain ⟨ms, es, hs, hms, hserror⟩ := exists_of_rounds hadd (by linarith) (by linarith)
  have hsscaled := abs_mul_sub_le hden.le hserror
  rw [add_mul] at hsscaled
  have hmul := rounds_mul hs hp
  rw [hpvalue] at hmul
  have hfbounds' := abs_le.1 hfscaled
  have hsbounds := abs_le.1 hsscaled
  obtain ⟨m, e, hx, hm, herror⟩ := exists_of_rounds hmul (by linarith) (by linarith)
  refine ⟨m, e, hx, ?_⟩
  push_cast
  exact abs_sub_lt_half (by linarith) hlt' hfscaled hsscaled herror

end Steps

/-- The sum of the parts is rounded to the coefficient, which is then divided by the power of ten. -/
theorem toFloat_of_fraction (hfraction : d.hasFraction = true) (hdigits : d.coefficient < 10 ^ 15)
    (hplaces : d.scale ≤ 22) : d.toFloat = if d.negative
      then -(floatOfInt d.coefficient / floatOfInt (Nat.pow 10 d.scale : Nat))
      else floatOfInt d.coefficient / floatOfInt (Nat.pow 10 d.scale : Nat) := by
  have hscale : d.scale ≠ 0 := by
    intro hzero
    rw [hasFraction, hzero, show d.coefficient % Nat.pow 10 0 = 0 from Nat.mod_one _] at hfraction
    cases hfraction
  have hrest : 0 < d.coefficient % d.denominator := Nat.pos_of_ne_zero (bne_iff_ne.1 hfraction)
  have hsplit : d.coefficient / d.denominator * 10 ^ d.scale + d.coefficient % d.denominator =
      d.coefficient := Nat.div_add_mod' d.coefficient (10 ^ d.scale)
  rw [← hsplit] at hdigits
  obtain ⟨mf, ef, hf, hmf, -⟩ := exists_fraction hplaces hrest hdigits
  obtain ⟨mp, ep, hp, hnear⟩ := exists_product hplaces hrest hdigits
  rw [hsplit] at hnear
  have hround := roundHalfAway_eq hp hnear
  have hnonzero := beq_zero_of_pos hf hmf
  have hpower := powerOfTen_eq d.scale (Nat.lt_succ_of_le hplaces)
  have hden : d.denominator = Nat.pow 10 d.scale := rfl
  have hwhole : (d.coefficient / d.denominator : Int) = (d.coefficient / d.denominator : Nat) := rfl
  have hpart : (d.coefficient % d.denominator : Int) = (d.coefficient % d.denominator : Nat) := rfl
  rw [hden] at hround hnonzero hwhole hpart
  rw [toFloat, if_neg hscale, hden, hwhole, hpart]
  dsimp only
  rw [hnonzero, if_neg Bool.false_ne_true, hpower, hround]

/-- A decimal with a fraction, of fifteen digits and 22 places at most, is made into the double nearest to
it. -/
theorem rounds_toFloat (hfraction : d.hasFraction = true) (hdigits : d.coefficient < 10 ^ 15)
    (hplaces : d.scale ≤ 22) : Format.double.Rounds d.negative (d.coefficient / d.denominator)
      (Binary.ofFloat d.toFloat) := by
  obtain ⟨mc, ec, hc, hcvalue⟩ := ofFloat_floatOfInt false (k := d.coefficient) (by omega)
  obtain ⟨mp, ep, hp, hmp, hpvalue⟩ := ofFloat_tenPower hplaces
  have hround := rounds_div hc hp hmp
  rw [← hcvalue, hpvalue, ← denominator_eq] at hround
  have hquotient : Format.double.Rounds false (d.coefficient / d.denominator)
      (Binary.ofFloat (floatOfInt d.coefficient / floatOfInt (Nat.pow 10 d.scale : Nat))) := hround
  rw [toFloat_of_fraction hfraction hdigits hplaces]
  cases d.negative with
  | false => exact hquotient
  | true =>
      rw [if_pos rfl, ofFloat_neg (isNaN_of_rounds hquotient)]
      exact hquotient.neg

/-- A unit of the double is less than a unit of the last place. -/
theorem two_zpow_lt_place {c places m : Nat} {e : Int} (hc : c < 10 ^ 15) (hplaces : places ≤ 22)
    (hholds : Format.double.Holds m e)
    (herror : |(c * 10 ^ (-places : Int) : ℚ) - m * 2 ^ e| ≤ c * 10 ^ (-places : Int) / 2 ^ 53) :
    (2 : ℚ) ^ e < 10 ^ (-places : Int) := by
  have hten : (0 : ℚ) < 10 ^ (-places : Int) := by positivity
  have hunit : (0 : ℚ) < 2 ^ e := by positivity
  have hdigits : (c : ℚ) * 10 ^ (-places : Int) ≤ 10 ^ 15 * 10 ^ (-places : Int) :=
    mul_le_mul_of_nonneg_right (by exact_mod_cast hc.le) hten.le
  rcases hholds.full with hfull | hleast
  · have hmantissa : (2 : ℚ) ^ 52 * 2 ^ e ≤ m * 2 ^ e :=
      mul_le_mul_of_nonneg_right (by exact_mod_cast hfull) hunit.le
    obtain ⟨hlow, -⟩ := abs_le.1 herror
    generalize (10 : ℚ) ^ (-places : Int) = place at hten hdigits hlow ⊢
    norm_num at hdigits hmantissa hlow
    linarith
  · calc (2 : ℚ) ^ e ≤ 2 ^ (-100 : Int) := zpow_le_zpow_right₀ one_le_two (by rw [hleast]; decide)
      _ < 10 ^ (-22 : Int) := by norm_num
      _ ≤ 10 ^ (-places : Int) := zpow_le_zpow_right₀ (by norm_num) (by omega)

/-- The double of a decimal with a fraction, which is rounded to it, has a unit less than that of the last
place. -/
theorem exists_toFloat (hfraction : d.hasFraction = true) (hdigits : d.coefficient < 10 ^ 15)
    (hplaces : d.scale ≤ 22) : ∃ m e, Binary.ofFloat d.toFloat = .finite d.negative m e ∧ 0 < m ∧
      Format.double.Rounds d.negative (d.coefficient * 10 ^ (-d.scale : Int)) (.finite d.negative m e) ∧
        (2 : ℚ) ^ e < 10 ^ (-d.scale : Int) := by
  have hround := rounds_toFloat hfraction hdigits hplaces
  have hvalue : (d.coefficient : ℚ) / d.denominator = d.coefficient * 10 ^ (-d.scale : Int) := by
    rw [denominator_eq, zpow_neg, zpow_natCast, div_eq_mul_inv]
  obtain ⟨hlow, hhigh⟩ := fraction_bounds hplaces (coefficient_pos hfraction)
    (by rwa [Nat.zero_mul, Nat.zero_add] : 0 * 10 ^ d.scale + d.coefficient < 10 ^ 15)
  rw [← denominator_eq] at hlow hhigh
  obtain ⟨m, e, hx, hm, herror⟩ := exists_of_rounds hround (by linarith) (by linarith)
  rw [hx, hvalue] at hround
  rw [hvalue] at herror
  exact ⟨m, e, hx, hm, hround,
    two_zpow_lt_place hdigits hplaces (Format.holds_of_decode (by decide) (by decide) hx) herror⟩

end Decimal

end Elementwise
