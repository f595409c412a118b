import Elementwise.Proofs.Exact.Rounding
import Elementwise.Proofs.Number.Binary
import Elementwise.Proofs.Text.Numeral
import Elementwise.Number.Reading
import Mathlib.Data.Int.Lemmas

/-!
Rounding to a format.  A quotient is rounded to the number of the format that is nearest to it, and of
two that are equally near to the one with the even mantissa; from half a unit beyond the largest number
on it is rounded to infinity.  A decimal numeral is rounded like the number that it denotes, also where
its exponent is so large or small that it is not computed with.
-/

namespace Elementwise

/-! ### Nearest integers -/

/-- No integer is nearer than a nearest one, and one that is as near is the same if that is odd. -/
theorem IsNearestEven.le_abs_sub {q : ℚ} {n : Int} (h : IsNearestEven q n) (k : Int) :
    |q - n| ≤ |q - k| ∧ (|q - n| = |q - k| → k = n ∨ Even n) := by
  by_cases hk : k = n
  · subst hk
    exact ⟨le_rfl, fun _ => Or.inl rfl⟩
  · have hone : (1 : ℚ) ≤ |(n : ℚ) - k| := by
      have hint : 1 ≤ |n - k| := Int.one_le_abs (sub_ne_zero.2 (Ne.symm hk))
      exact_mod_cast hint
    have htriangle : |(n : ℚ) - k| ≤ |q - n| + |q - k| := by
      rw [abs_sub_comm q n]
      exact abs_sub_le (n : ℚ) q k
    refine ⟨by linarith [h.1], fun htie => Or.inr (h.2 ?_)⟩
    linarith [h.1]

theorem IsNearestEven.bounds {q : ℚ} {n : Nat} (h : IsNearestEven q n) :
    n - 1 / 2 ≤ q ∧ q ≤ n + 1 / 2 := by
  obtain ⟨hbelow, habove⟩ := abs_le.1 h.1
  rw [Int.cast_natCast] at hbelow habove
  exact ⟨by linarith, by linarith⟩

namespace Number.Format

variable {f : Format} {s : Bool} {m num den : Nat} {e : Int} {q v : ℚ}

/-! ### The nearest number of a format -/

/-- The finite numbers of a format without their signs. -/
def IsValue (f : Format) (v : ℚ) : Prop :=
  ∃ m e, f.Holds m e ∧ v = m * 2 ^ e

/-- Half a unit beyond the largest finite number. -/
def overflow (f : Format) : ℚ :=
  (2 ^ f.precision - 1 / 2) * 2 ^ f.maxExponent

theorem half_unit_nonneg (f : Format) : (0 : ℚ) ≤ 2 ^ f.precision - 1 / 2 := by
  have hone : (1 : ℚ) ≤ 2 ^ f.precision := one_le_pow₀ one_le_two
  linarith

/-- What a number that is not negative is rounded to, with a sign: a number of the format to which no
other is nearer, of two that are equally near the one with the even mantissa, or infinity from
`overflow` on. -/
inductive Rounds (f : Format) (s : Bool) (q : ℚ) : Binary → Prop where
  | finite {m : Nat} {e : Int} (hlt : q < f.overflow) (hholds : f.Holds m e)
      (hnearest : ∀ v, f.IsValue v → |q - m * 2 ^ e| ≤ |q - v| ∧
        (|q - m * 2 ^ e| = |q - v| → v = m * 2 ^ e ∨ Even m)) : Rounds f s q (.finite s m e)
  | infinite (hle : f.overflow ≤ q) : Rounds f s q (.infinite s)

theorem Rounds.isFinite_iff {b : Binary} (h : f.Rounds s q b) :
    b.isFinite = true ↔ q < f.overflow := by
  cases h with
  | finite hlt => exact ⟨fun _ => hlt, fun _ => rfl⟩
  | infinite hle => exact ⟨fun h => (nomatch h), fun h => absurd hle (not_le.2 h)⟩

theorem inUnits_value (num den : Nat) (e : Int) :
    ((inUnits num den e).1 : ℚ) / (inUnits num den e).2 = num / den / 2 ^ e := by
  cases e with
  | ofNat e =>
      rw [inUnits, Int.ofNat_eq_natCast, zpow_natCast, Nat.pow_eq]
      push_cast
      rw [div_div]
  | negSucc e =>
      rw [inUnits, zpow_negSucc, Nat.pow_eq]
      push_cast
      field_simp

/-- The mantissa at an exponent is the integer nearest to the number of units. -/
theorem isNearestEven_mantissaAt (num : Nat) (hden : 0 < den) (e : Int) :
    IsNearestEven ((num : ℚ) / den / 2 ^ e) (mantissaAt num den e) := by
  rw [mantissaAt_eq, ← inUnits_value]
  exact isNearestEven_divEven _ (inUnits_pos hden e)

/-- The exponent whose units a quotient is rounded to. -/
structure IsExponentOf (f : Format) (q : ℚ) (e : Int) : Prop where
  minExponent_le : f.minExponent ≤ e
  lt : q < 2 ^ f.precision * 2 ^ e
  full : e = f.minExponent ∨ 2 ^ (f.precision - 1) * 2 ^ e ≤ q

/-- The exponent of the first attempt at rounding, or the next one if the quotient is too large. -/
def chosenExponent (f : Format) (num den : Nat) : Int :=
  let low := f.firstExponent num den
  if (inUnits num den low).1 / (inUnits num den low).2 < Nat.pow 2 f.precision then low else low + 1

theorem two_zpow_pred (hp : 0 < f.precision) (e : Int) :
    (2 : ℚ) ^ (f.precision - 1) * 2 ^ (e + 1) = 2 ^ f.precision * 2 ^ e := by
  obtain ⟨k, hk⟩ := Nat.exists_eq_succ_of_ne_zero hp.ne'
  rw [hk, zpow_add_one₀ two_ne_zero, Nat.succ_sub_one, pow_succ]
  ring

theorem isExponentOf_chosenExponent (hp : 0 < f.precision) (hnum : 0 < num) (hden : 0 < den) :
    f.IsExponentOf (num / den) (f.chosenExponent num den) := by
  obtain ⟨hlow, hhigh⟩ := value_bounds hnum hden
  have hunit (e : Int) : (0 : ℚ) < 2 ^ e := by positivity
  have hmin : f.minExponent ≤ f.firstExponent num den := le_max_left _ _
  have htop : (num.log2 : Int) - den.log2 - f.precision ≤ f.firstExponent num den := le_max_right _ _
  have hfloor : ((inUnits num den (f.firstExponent num den)).1 /
      (inUnits num den (f.firstExponent num den)).2 < Nat.pow 2 f.precision) ↔
        (num : ℚ) / den < 2 ^ f.precision * 2 ^ f.firstExponent num den := by
    have hden' : 0 < (inUnits num den (f.firstExponent num den)).2 := inUnits_pos hden _
    rw [Nat.div_lt_iff_lt_mul hden', ← div_lt_iff₀ (hunit _), ← inUnits_value,
      div_lt_iff₀ (by exact_mod_cast hden')]
    exact_mod_cast Iff.rfl
  rw [chosenExponent]
  split
  · rename_i hlt
    refine ⟨hmin, hfloor.1 hlt, ?_⟩
    rcases max_choice f.minExponent ((num.log2 : Int) - den.log2 - f.precision) with hfirst | hfirst
    · exact Or.inl hfirst
    · refine Or.inr (le_trans (le_of_eq ?_) hlow.le)
      rw [firstExponent, hfirst, ← zpow_natCast, ← zpow_add₀ two_ne_zero]
      congr 1
      omega
  · rename_i hle
    refine ⟨by omega, hhigh.trans_le ?_, Or.inr ?_⟩
    · rw [← zpow_natCast, ← zpow_add₀ two_ne_zero]
      exact zpow_le_zpow_right₀ one_le_two (by omega)
    · rw [two_zpow_pred hp]
      exact not_lt.1 (mt hfloor.2 hle)

/-- A number of the format is a multiple of the units, or it is below the least full mantissa of
them. -/
theorem IsValue.grid (hv : f.IsValue v) (hp : 0 < f.precision) (he : f.IsExponentOf q e) :
    (∃ k : Int, v = k * 2 ^ e) ∨
      v < 2 ^ (f.precision - 1) * 2 ^ e ∧ 2 ^ (f.precision - 1) * 2 ^ e ≤ q := by
  obtain ⟨m', e', hholds, rfl⟩ := hv
  rcases le_or_gt e e' with hle | hlt
  · refine Or.inl ⟨m' * 2 ^ (e' - e).toNat, ?_⟩
    have hsplit : e' = (e' - e).toNat + e := by omega
    conv_lhs => rw [hsplit, zpow_add₀ two_ne_zero, zpow_natCast]
    push_cast
    ring
  · have hmin := hholds.minExponent_le
    refine Or.inr ⟨?_, he.full.resolve_left (by omega)⟩
    have hm : (m' : ℚ) < 2 ^ f.precision := by exact_mod_cast hholds.lt
    have hunit : (2 : ℚ) ^ e' ≤ 2 ^ (e - 1) := zpow_le_zpow_right₀ one_le_two (by omega)
    calc (m' : ℚ) * 2 ^ e' < 2 ^ f.precision * 2 ^ e' := mul_lt_mul_of_pos_right hm (by positivity)
      _ ≤ 2 ^ f.precision * 2 ^ (e - 1) := mul_le_mul_of_nonneg_left hunit (by positivity)
      _ = 2 ^ (f.precision - 1) * 2 ^ e := by rw [← two_zpow_pred hp, sub_add_cancel]

/-- A nearest number of units is nearest among the numbers of the format. -/
theorem nearest_of_units (hp : 0 < f.precision) (he : f.IsExponentOf q e)
    (hm : IsNearestEven (q / 2 ^ e) m) (hv : f.IsValue v) :
    |q - m * 2 ^ e| ≤ |q - v| ∧ (|q - m * 2 ^ e| = |q - v| → v = m * 2 ^ e ∨ Even m) := by
  have hunit : (0 : ℚ) < 2 ^ e := by positivity
  have hscale (k : Int) : |q - k * 2 ^ e| = |q / 2 ^ e - k| * 2 ^ e := by
    rw [← abs_of_pos hunit, ← abs_mul, abs_of_pos hunit, sub_mul, div_mul_cancel₀ q hunit.ne']
  have hmultiple (k : Int) : |q - m * 2 ^ e| ≤ |q - k * 2 ^ e| ∧
      (|q - m * 2 ^ e| = |q - k * 2 ^ e| → k = m ∨ Even m) := by
    obtain ⟨hle, htie⟩ := hm.le_abs_sub k
    have hself := hscale m
    rw [Int.cast_natCast] at hself
    rw [hself, hscale k]
    refine ⟨mul_le_mul_of_nonneg_right hle hunit.le, fun h => ?_⟩
    exact (htie (mul_right_cancel₀ hunit.ne' h)).imp id (Int.even_coe_nat m).1
  rcases hv.grid hp he with ⟨k, rfl⟩ | ⟨hbelow, hfull⟩
  · refine ⟨(hmultiple k).1, fun h => ((hmultiple k).2 h).imp (fun hk => ?_) id⟩
    rw [hk, Int.cast_natCast]
  · -- the least full mantissa lies between
    have hle := (hmultiple (2 ^ (f.precision - 1))).1
    push_cast at hle
    rw [abs_of_nonneg (sub_nonneg.2 hfull)] at hle
    have hlt : |q - m * 2 ^ e| < |q - v| := by
      rw [abs_of_pos (sub_pos.2 (hbelow.trans_le hfull))]
      linarith
    exact ⟨hlt.le, fun h => absurd h hlt.ne⟩

/-! ### Mantissas in units -/

theorem full_of_units (he : f.IsExponentOf q e) (hm : IsNearestEven (q / 2 ^ e) m) :
    Nat.pow 2 (f.precision - 1) ≤ m ∨ e = f.minExponent := by
  refine he.full.symm.imp (fun hfull => ?_) id
  rw [← le_div_iff₀ (by positivity)] at hfull
  have hlt : (2 : ℚ) ^ (f.precision - 1) < m + 1 := by linarith [hm.bounds.2]
  exact Nat.le_of_lt_succ (by exact_mod_cast hlt)

theorem le_of_units (he : f.IsExponentOf q e) (hm : IsNearestEven (q / 2 ^ e) m) :
    m ≤ Nat.pow 2 f.precision := by
  have hq := (div_lt_iff₀ (by positivity)).2 he.lt
  have hlt : (m : ℚ) < 2 ^ f.precision + 1 := by linarith [hm.bounds.1]
  exact Nat.le_of_lt_succ (by exact_mod_cast hlt)

/-- A mantissa that fits is less than half a unit below the first that does not. -/
theorem units_lt (hp : 0 < f.precision) (hm : IsNearestEven (q / 2 ^ e) m)
    (hlt : m < Nat.pow 2 f.precision) : q / 2 ^ e < 2 ^ f.precision - 1 / 2 := by
  have hcast : (m : ℚ) + 1 ≤ 2 ^ f.precision := by exact_mod_cast hlt
  have hle := hm.bounds.2
  refine lt_of_le_of_ne (by linarith) fun htie => ?_
  -- a tie would go to the even mantissa, but the last one that fits is odd
  have hlast : (m : ℚ) + 1 = 2 ^ f.precision := by linarith
  have heven : Even (m : Int) := by
    refine hm.2 ?_
    rw [htie, ← hlast, Int.cast_natCast, abs_of_nonneg] <;> linarith
  have hsucc : m + 1 = 2 ^ f.precision := by exact_mod_cast hlast
  have hpow : Even (2 ^ f.precision) := (Nat.even_pow' (by omega)).2 even_two
  rw [← hsucc, Nat.even_add_one] at hpow
  exact hpow ((Int.even_coe_nat m).1 heven)

/-- A number is rounded at its exponent if its mantissa fits there. -/
theorem rounds_of_lt (hp : 0 < f.precision) (he : f.IsExponentOf q e)
    (hm : IsNearestEven (q / 2 ^ e) m) (hrange : f.minExponent ≤ f.maxExponent) (hlt : m < Nat.pow 2 f.precision) :
    f.Rounds s q (if f.maxExponent < e then .infinite s else .finite s m e) := by
  have hpred := two_zpow_pred hp f.maxExponent
  split
  · rename_i hmax
    have hfull := he.full.resolve_left (by omega)
    have hpow : (2 : ℚ) ^ (f.maxExponent + 1) ≤ 2 ^ e := zpow_le_zpow_right₀ one_le_two (by omega)
    refine .infinite ?_
    calc f.overflow ≤ 2 ^ f.precision * 2 ^ f.maxExponent :=
          mul_le_mul_of_nonneg_right (by linarith) (by positivity)
      _ = 2 ^ (f.precision - 1) * 2 ^ (f.maxExponent + 1) := hpred.symm
      _ ≤ 2 ^ (f.precision - 1) * 2 ^ e := mul_le_mul_of_nonneg_left hpow (by positivity)
      _ ≤ q := hfull
  · rename_i hmax
    have hpow : (2 : ℚ) ^ e ≤ 2 ^ f.maxExponent := zpow_le_zpow_right₀ one_le_two (not_lt.1 hmax)
    refine .finite ?_ ⟨hlt, full_of_units he hm, he.minExponent_le, not_lt.1 hmax⟩
      fun v hv => nearest_of_units hp he hm hv
    calc q < (2 ^ f.precision - 1 / 2) * 2 ^ e := (div_lt_iff₀ (by positivity)).1 (units_lt hp hm hlt)
      _ ≤ f.overflow := mul_le_mul_of_nonneg_left hpow f.half_unit_nonneg

/-- A number whose mantissa is the first that does not fit has half of it at the next exponent. -/
theorem rounds_of_eq (hp : 1 < f.precision) (he : f.IsExponentOf q e)
    (hm : IsNearestEven (q / 2 ^ e) m) (heq : m = Nat.pow 2 f.precision) :
    f.Rounds s q (if f.maxExponent < e + 1 then .infinite s else .finite s (m / 2) (e + 1)) := by
  have hsucc := pow_precision (Nat.lt_of_succ_lt hp)
  have hhalf : m / 2 = Nat.pow 2 (f.precision - 1) := by omega
  have hvalue : ((m / 2 : Nat) : ℚ) * 2 ^ (e + 1) = m * 2 ^ e := by
    rw [hhalf, heq, Nat.pow_eq, Nat.pow_eq]
    push_cast
    exact two_zpow_pred (Nat.lt_of_succ_lt hp) e
  split
  · rename_i hmax
    have hpow : (2 : ℚ) ^ f.maxExponent ≤ 2 ^ e := zpow_le_zpow_right₀ one_le_two (by omega)
    have hcast : (m : ℚ) = 2 ^ f.precision := by exact_mod_cast heq
    have hunits : 2 ^ f.precision - 1 / 2 ≤ q / 2 ^ e := by linarith [hm.bounds.1]
    refine .infinite ?_
    calc f.overflow ≤ (2 ^ f.precision - 1 / 2) * 2 ^ e :=
          mul_le_mul_of_nonneg_left hpow f.half_unit_nonneg
      _ ≤ q := (le_div_iff₀ (by positivity)).1 hunits
  · rename_i hmax
    have hpow : (2 : ℚ) ^ (e + 1) ≤ 2 ^ f.maxExponent := zpow_le_zpow_right₀ one_le_two (not_lt.1 hmax)
    have hmin := he.minExponent_le
    have hpos : 0 < Nat.pow 2 (f.precision - 1) := Nat.pow_pos two_pos
    have heven : Even (m / 2) := by
      rw [hhalf]
      exact (Nat.even_pow' (by omega)).2 even_two
    have hone : (1 : ℚ) ≤ 2 ^ (f.precision - 1) := one_le_pow₀ one_le_two
    have hdouble : (2 : ℚ) ^ f.precision = 2 ^ (f.precision - 1) * 2 := by exact_mod_cast hsucc
    refine .finite ?_ ⟨by omega, Or.inl hhalf.ge, by omega, not_lt.1 hmax⟩ fun v hv => ?_
    · calc q < 2 ^ f.precision * 2 ^ e := he.lt
        _ = 2 ^ (f.precision - 1) * 2 ^ (e + 1) := (two_zpow_pred (Nat.lt_of_succ_lt hp) e).symm
        _ ≤ 2 ^ (f.precision - 1) * 2 ^ f.maxExponent := mul_le_mul_of_nonneg_left hpow (by positivity)
        _ ≤ f.overflow := mul_le_mul_of_nonneg_right (by linarith) (by positivity)
    · rw [hvalue]
      exact ⟨(nearest_of_units (Nat.lt_of_succ_lt hp) he hm hv).1, fun _ => Or.inr heven⟩

theorem minExponent_le_maxExponent (hexp : 1 < f.exponentBits) : f.minExponent ≤ f.maxExponent := by
  have htwo : Nat.pow 2 1 ≤ Nat.pow 2 (f.exponentBits - 1) := Nat.pow_le_pow_right two_pos (by omega)
  have hone : Nat.pow 2 1 = 2 := rfl
  rw [minExponent, maxExponent]
  omega

/-- From zero up to half of the smallest number everything is rounded to zero. -/
theorem rounds_zero (hp : 0 < f.precision) (hexp : 1 < f.exponentBits) (hq : 0 ≤ q)
    (hsmall : q ≤ 2 ^ (f.minExponent - 1)) : f.Rounds s q (.finite s 0 f.minExponent) := by
  have hrange := minExponent_le_maxExponent hexp
  have hone : (1 : ℚ) ≤ 2 ^ f.precision - 1 / 2 := by
    have htwo : (2 : ℚ) ^ 1 ≤ 2 ^ f.precision := pow_le_pow_right₀ one_le_two hp
    linarith
  refine .finite ?_ ⟨Nat.pow_pos two_pos, Or.inr rfl, le_rfl, hrange⟩ fun v hv => ⟨?_, fun _ => ?_⟩
  · calc q ≤ 2 ^ (f.minExponent - 1) := hsmall
      _ < 2 ^ f.maxExponent := zpow_lt_zpow_right₀ one_lt_two (by omega)
      _ ≤ f.overflow := le_mul_of_one_le_left (by positivity) hone
  · rw [Nat.cast_zero, zero_mul, sub_zero, abs_of_nonneg hq]
    obtain ⟨m, e, hholds, rfl⟩ := hv
    rcases Nat.eq_zero_or_pos m with rfl | hm
    · rw [Nat.cast_zero, zero_mul, sub_zero]
      exact le_abs_self q
    · have hle : (2 : ℚ) * 2 ^ (f.minExponent - 1) ≤ m * 2 ^ e := by
        rw [← zpow_one_add₀ two_ne_zero, add_sub_cancel, ← one_mul ((2 : ℚ) ^ f.minExponent)]
        have hpow : (2 : ℚ) ^ f.minExponent ≤ 2 ^ e :=
          zpow_le_zpow_right₀ one_le_two hholds.minExponent_le
        exact mul_le_mul (by exact_mod_cast hm) hpow (by positivity) (Nat.cast_nonneg m)
      rw [abs_sub_comm]
      exact le_trans (by linarith) (le_abs_self _)
  · exact Or.inr ⟨0, rfl⟩

/-- A quotient is rounded to the nearest number of the format. -/
theorem rounds_nearest (num : Nat) (hden : 0 < den) (hp : 1 < f.precision)
    (hexp : 1 < f.exponentBits) : f.Rounds s (num / den) (f.nearest s num den) := by
  rcases Nat.eq_zero_or_pos num with rfl | hnum
  · rw [Nat.cast_zero, zero_div]
    exact rounds_zero (Nat.lt_of_succ_lt hp) hexp le_rfl (by positivity)
  · have he := isExponentOf_chosenExponent (Nat.lt_of_succ_lt hp) hnum hden
    have hm := isNearestEven_mantissaAt num hden (f.chosenExponent num den)
    rw [nearest_eq hnum.ne']
    dsimp only
    rw [← chosenExponent]
    split
    · rename_i hlt
      exact rounds_of_lt (Nat.lt_of_succ_lt hp) he hm (minExponent_le_maxExponent hexp) hlt
    · rename_i hle
      exact rounds_of_eq hp he hm (Nat.le_antisymm (le_of_units he hm) (not_lt.1 hle))

end Number.Format

/-! ### Numerals -/

namespace Text

theorem ofDigits_append (ds ds' : List Char) :
    ofDigits (ds ++ ds') = ofDigits ds * 10 ^ ds'.length + ofDigits ds' := by
  rw [ofDigits, Nat.ofDigitChars_append, Nat.ofDigitChars_eq_ofDigitChars_zero, Nat.mul_comm]
  rfl

/-- Zeros in front of digits do not count. -/
theorem ofDigits_dropWhile (ds : List Char) : ofDigits (ds.dropWhile (· == '0')) = ofDigits ds := by
  induction ds with
  | nil => rfl
  | cons d ds ih =>
      rw [List.dropWhile_cons]
      split
      · rename_i hd
        rw [ih, eq_of_beq hd]
        rfl
      · rfl

/-- Digits of which the first is not zero denote a number of that length. -/
theorem le_ofDigits {ds : List Char} (hall : ∀ d ∈ ds, isAsciiDigit d = true) (hne : ds ≠ [])
    (hfirst : ds.head hne ≠ '0') : 10 ^ (ds.length - 1) ≤ ofDigits ds := by
  obtain ⟨d, ds, rfl⟩ := List.exists_cons_of_ne_nil hne
  have hpos : 1 ≤ d.toNat - '0'.toNat := by
    obtain ⟨hzero, -⟩ := toNat_of_isAsciiDigit (hall d List.mem_cons_self)
    have hne : d.toNat ≠ 48 := fun h => hfirst (Char.toNat_inj.1 h)
    have htoNat : '0'.toNat = 48 := rfl
    omega
  rw [ofDigits, Nat.ofDigitChars_cons, Nat.mul_zero, Nat.zero_add,
    Nat.ofDigitChars_eq_ofDigitChars_zero]
  exact (Nat.le_mul_of_pos_right _ hpos).trans (Nat.le_add_right _ _)

end Text

namespace Number.Numeral

open Text

variable {f : Format} {s : Bool} {n : Numeral}

/-- The number that a numeral denotes. -/
def value (n : Numeral) : ℚ :=
  ofDigits n.digits * 10 ^ (n.exponent - n.scale)

/-- All numbers of both sizes lie between the exponents beyond which numerals are not computed with. -/
theorem bounds_of_format (hf : f = .single ∨ f = .double) :
    f.overflow ≤ 10 ^ (400 : Int) ∧ (10 : ℚ) ^ (-400 : Int) ≤ 2 ^ (f.minExponent - 1) := by
  have hrange : f.precision + f.maxExponent ≤ 1200 ∧ -1200 ≤ f.minExponent - 1 := by
    rcases hf with rfl | rfl <;> decide
  have hpow : (2 : ℚ) ^ (1200 : Int) ≤ 10 ^ (400 : Int) := by
    calc (2 : ℚ) ^ (1200 : Int) = (2 ^ 3) ^ 400 := by rw [← pow_mul]; rfl
      _ ≤ 10 ^ 400 := pow_le_pow_left₀ (by norm_num) (by norm_num) 400
      _ = 10 ^ (400 : Int) := rfl
  constructor
  · calc f.overflow ≤ 2 ^ f.precision * 2 ^ f.maxExponent :=
          mul_le_mul_of_nonneg_right (by linarith) (by positivity)
      _ = 2 ^ (f.precision + f.maxExponent) := by rw [zpow_add₀ two_ne_zero, zpow_natCast]
      _ ≤ 2 ^ (1200 : Int) := zpow_le_zpow_right₀ one_le_two hrange.1
      _ ≤ 10 ^ (400 : Int) := hpow
  · calc (10 : ℚ) ^ (-400 : Int) = (10 ^ (400 : Int))⁻¹ := zpow_neg _ _
      _ ≤ (2 ^ (1200 : Int))⁻¹ := inv_anti₀ (by positivity) hpow
      _ = 2 ^ (-1200 : Int) := (zpow_neg _ _).symm
      _ ≤ 2 ^ (f.minExponent - 1) := zpow_le_zpow_right₀ one_le_two hrange.2

/-- The digits of a numeral from the first that is not zero, and its exponent, tell its size. -/
theorem value_bounds (hdigits : ∀ d ∈ n.digits, isAsciiDigit d = true)
    (hne : ofDigits (n.digits.dropWhile (· == '0')) ≠ 0) :
    10 ^ (n.exponent - n.scale + (n.digits.dropWhile (· == '0')).length - 1) ≤ n.value ∧
      n.value < 10 ^ (n.exponent - n.scale + (n.digits.dropWhile (· == '0')).length) := by
  have hall : ∀ d ∈ n.digits.dropWhile (· == '0'), isAsciiDigit d = true :=
    fun d hd => hdigits d ((List.dropWhile_sublist _).subset hd)
  have hnil : n.digits.dropWhile (· == '0') ≠ [] := fun h => hne (by rw [h]; rfl)
  have hfirst := le_ofDigits hall hnil
    (ne_of_beq_false (List.head_dropWhile_not (· == '0') hnil))
  have hlast := ofDigits_lt (List.all_eq_true.2 hall)
  have hlength := List.length_pos_of_ne_nil hnil
  have hten : (10 : ℚ) ≠ 0 := by norm_num
  have hunit : (0 : ℚ) < 10 ^ (n.exponent - n.scale) := by positivity
  rw [value, ← ofDigits_dropWhile]
  generalize n.digits.dropWhile (· == '0') = ds at hfirst hlast hlength ⊢
  constructor
  · have hexponent : n.exponent - n.scale + ds.length - 1 =
        (ds.length - 1 : Nat) + (n.exponent - n.scale) := by omega
    rw [hexponent, zpow_add₀ hten, zpow_natCast]
    exact mul_le_mul_of_nonneg_right (by exact_mod_cast hfirst) hunit.le
  · rw [add_comm, zpow_add₀ hten, zpow_natCast]
    exact mul_lt_mul_of_pos_right (by exact_mod_cast hlast) hunit

/-- A numeral is rounded like the number that it denotes. -/
theorem rounds_nearest (hf : f = .single ∨ f = .double)
    (hdigits : ∀ d ∈ n.digits, isAsciiDigit d = true) : f.Rounds s n.value (n.nearest f s) := by
  obtain ⟨hoverflow, hunderflow⟩ := bounds_of_format hf
  obtain ⟨hp, hexp⟩ : 1 < f.precision ∧ 1 < f.exponentBits := by
    rcases hf with rfl | rfl <;> decide
  have hone : (1 : ℚ) ≤ 10 := by norm_num
  rw [nearest]
  split
  · rename_i hzero
    rw [value, ← ofDigits_dropWhile, hzero, Nat.cast_zero, zero_mul]
    exact Format.rounds_zero (Nat.lt_of_succ_lt hp) hexp le_rfl (by positivity)
  rename_i hne
  obtain ⟨hlow, hhigh⟩ := value_bounds hdigits hne
  split
  · exact .infinite (hoverflow.trans ((zpow_le_zpow_right₀ hone (by omega)).trans hlow))
  split
  · refine Format.rounds_zero (Nat.lt_of_succ_lt hp) hexp (by rw [value]; positivity) ?_
    exact (hhigh.le.trans (zpow_le_zpow_right₀ hone (by omega))).trans hunderflow
  rw [value, ← ofDigits_dropWhile]
  split
  · rename_i e he
    have hround := Format.rounds_nearest (s := s)
      (ofDigits (n.digits.dropWhile (· == '0')) * 10 ^ e) Nat.one_pos hp hexp
    rw [he, Int.ofNat_eq_natCast, zpow_natCast]
    push_cast at hround
    rwa [div_one] at hround
  · rename_i e he
    have hden : 0 < 10 ^ (e + 1) := Nat.pow_pos (by decide)
    have hround := Format.rounds_nearest (s := s)
      (ofDigits (n.digits.dropWhile (· == '0'))) hden hp hexp
    rw [he, zpow_negSucc, ← div_eq_mul_inv]
    push_cast at hround
    exact hround

end Number.Numeral

end Elementwise
