import Elementwise.Number.Binary
import Mathlib.Algebra.Order.Field.Power
import Mathlib.Algebra.Order.Ring.Rat
import Mathlib.Data.Nat.Cast.Field
import Mathlib.Data.Nat.Log
import Mathlib.Tactic.FieldSimp
import Mathlib.Tactic.Linarith
import Mathlib.Tactic.Ring

/-!
What a format holds, it keeps.  A mantissa of full precision, or one with the least exponent, has a
bit pattern of its own, and a quotient that is such a number is rounded to exactly that number.
-/

namespace Elementwise.Number

/-- The number with the other sign. -/
def Binary.opposite : Binary → Binary
  | .nan => .nan
  | .infinite s => .infinite !s
  | .finite s m e => .finite (!s) m e

namespace Format

variable {f : Format} {s : Bool} {m num den : Nat} {e : Int}

/-- The numbers of a format, each with its one mantissa and exponent. -/
structure Holds (f : Format) (m : Nat) (e : Int) : Prop where
  lt : m < Nat.pow 2 f.precision
  full : Nat.pow 2 (f.precision - 1) ≤ m ∨ e = f.minExponent
  minExponent_le : f.minExponent ≤ e
  le_maxExponent : e ≤ f.maxExponent

theorem Holds.eq_minExponent (h : f.Holds 0 e) : e = f.minExponent := by
  refine h.full.resolve_left fun hle => ?_
  have hpos : 0 < Nat.pow 2 (f.precision - 1) := Nat.pow_pos (by decide)
  omega

theorem pow_precision (hp : 0 < f.precision) :
    Nat.pow 2 f.precision = Nat.pow 2 (f.precision - 1) * 2 := by
  obtain ⟨k, hk⟩ := Nat.exists_eq_succ_of_ne_zero hp.ne'
  rw [hk]
  rfl

/-! ### Bit patterns -/

theorem exponentSize_eq (hexp : 0 < f.exponentBits) :
    (Nat.pow 2 f.exponentBits : Int) = f.maxExponent - f.minExponent + 3 := by
  obtain ⟨k, hk⟩ := Nat.exists_eq_succ_of_ne_zero hexp.ne'
  have hpow : Nat.pow 2 (k + 1) = Nat.pow 2 k * 2 := rfl
  rw [maxExponent, minExponent, hk, Nat.succ_eq_add_one, Nat.add_sub_cancel, hpow]
  push_cast
  ring

/-- The pattern with the given sign, exponent and fraction. -/
def pattern (f : Format) (negative : Bool) (exponent fraction : Nat) : Nat :=
  Nat.pow 2 (f.precision - 1) * (Nat.pow 2 f.exponentBits * negative.toNat + exponent) + fraction

theorem signBits_eq (k : Nat) (s : Bool) :
    (if s then Nat.pow 2 (f.precision - 1) * k else 0) =
      Nat.pow 2 (f.precision - 1) * (k * s.toNat) := by
  cases s
  · rfl
  · rw [if_pos rfl, Bool.toNat_true, Nat.mul_one]

theorem encode_infinite :
    f.encode (.infinite s) = f.pattern s (Nat.pow 2 f.exponentBits - 1) 0 := by
  rw [encode, pattern]
  dsimp only
  rw [signBits_eq, Nat.mul_add, Nat.add_zero]

theorem encode_small (hm : m < Nat.pow 2 (f.precision - 1)) :
    f.encode (.finite s m e) = f.pattern s 0 m := by
  rw [encode, pattern]
  dsimp only
  rw [if_pos hm, signBits_eq, Nat.add_zero]

theorem encode_full (hm : Nat.pow 2 (f.precision - 1) ≤ m) :
    f.encode (.finite s m e) =
      f.pattern s (e - f.minExponent + 1).toNat (m - Nat.pow 2 (f.precision - 1)) := by
  rw [encode, pattern]
  dsimp only
  rw [if_neg (Nat.not_lt.mpr hm), signBits_eq, Nat.mul_add]

section Pattern

variable {x r : Nat} (hx : x < Nat.pow 2 f.exponentBits) (hr : r < Nat.pow 2 (f.precision - 1))
include hr

theorem pattern_mod : f.pattern s x r % Nat.pow 2 (f.precision - 1) = r := by
  rw [pattern, Nat.mul_add_mod, Nat.mod_eq_of_lt hr]

theorem pattern_div : f.pattern s x r / Nat.pow 2 (f.precision - 1) =
    Nat.pow 2 f.exponentBits * s.toNat + x := by
  rw [pattern, Nat.mul_add_div (by omega), Nat.div_eq_of_lt hr, Nat.add_zero]

include hx

theorem pattern_div_mod :
    f.pattern s x r / Nat.pow 2 (f.precision - 1) % Nat.pow 2 f.exponentBits = x := by
  rw [pattern_div hr, Nat.mul_add_mod, Nat.mod_eq_of_lt hx]

theorem decode_pattern : f.decode (f.pattern s x r) =
    if x = Nat.pow 2 f.exponentBits - 1 then if r = 0 then .infinite s else .nan
    else if x = 0 then .finite s r f.minExponent
    else .finite s (Nat.pow 2 (f.precision - 1) + r) (f.minExponent + x - 1) := by
  have hsign : (Nat.pow 2 f.exponentBits * s.toNat + x) / Nat.pow 2 f.exponentBits = s.toNat := by
    rw [Nat.mul_add_div (by omega), Nat.div_eq_of_lt hx, Nat.add_zero]
  have hnegative : (s.toNat % 2 == 1) = s := by cases s <;> rfl
  rw [decode, pattern_mod hr, pattern_div_mod hx hr, pattern_div hr, hsign, hnegative]

theorem decode_pattern_not :
    f.decode (f.pattern (!s) x r) = (f.decode (f.pattern s x r)).opposite := by
  rw [decode_pattern hx hr, decode_pattern hx hr]
  split
  · split <;> rfl
  · split <;> rfl

theorem pattern_lt : f.pattern s x r <
    Nat.pow 2 (f.precision - 1) * (Nat.pow 2 f.exponentBits * 2) := by
  have hs : s.toNat ≤ 1 := Bool.toNat_le s
  calc f.pattern s x r
      < Nat.pow 2 (f.precision - 1) * (Nat.pow 2 f.exponentBits * s.toNat + x + 1) := by
        rw [pattern, Nat.mul_add_one]
        omega
    _ ≤ Nat.pow 2 (f.precision - 1) * (Nat.pow 2 f.exponentBits * 2) := by
        refine Nat.mul_le_mul_left _ ?_
        have := Nat.mul_le_mul_left (Nat.pow 2 f.exponentBits) hs
        omega

end Pattern

/-- Every number below the count of all patterns is a pattern. -/
theorem exists_pattern {bits : Nat}
    (h : bits < Nat.pow 2 (f.precision - 1) * (Nat.pow 2 f.exponentBits * 2)) :
    ∃ s x r, x < Nat.pow 2 f.exponentBits ∧ r < Nat.pow 2 (f.precision - 1) ∧
      bits = f.pattern s x r := by
  have hfraction : 0 < Nat.pow 2 (f.precision - 1) := Nat.pow_pos (by decide)
  have hexponent : 0 < Nat.pow 2 f.exponentBits := Nat.pow_pos (by decide)
  have hsign : bits / Nat.pow 2 (f.precision - 1) / Nat.pow 2 f.exponentBits < 2 :=
    Nat.div_lt_of_lt_mul (Nat.div_lt_of_lt_mul h)
  refine ⟨bits / Nat.pow 2 (f.precision - 1) / Nat.pow 2 f.exponentBits == 1,
    bits / Nat.pow 2 (f.precision - 1) % Nat.pow 2 f.exponentBits,
    bits % Nat.pow 2 (f.precision - 1), Nat.mod_lt _ hexponent, Nat.mod_lt _ hfraction, ?_⟩
  have hbool {n : Nat} (hn : n < 2) : (n == 1).toNat = n := by
    rcases Nat.le_one_iff_eq_zero_or_eq_one.mp (Nat.le_of_lt_succ hn) with rfl | rfl <;> rfl
  rw [pattern, hbool hsign, Nat.div_add_mod, Nat.div_add_mod]

theorem encode_eq_pattern (h : f.Holds m e) (hp : 0 < f.precision) (hexp : 0 < f.exponentBits) :
    ∃ x r, x + 1 < Nat.pow 2 f.exponentBits ∧ r < Nat.pow 2 (f.precision - 1) ∧
      f.encode (.finite s m e) = f.pattern s x r ∧
      f.decode (f.pattern s x r) = .finite s m e := by
  have hsize := exponentSize_eq hexp
  have hmin := h.minExponent_le
  have hmax := h.le_maxExponent
  have hlt := h.lt
  have hsucc := pow_precision hp
  by_cases hsmall : m < Nat.pow 2 (f.precision - 1)
  · -- less than full precision: the least exponent, whose field is zero
    have he : e = f.minExponent := h.full.resolve_left (by omega)
    refine ⟨0, m, by omega, hsmall, encode_small hsmall, ?_⟩
    rw [decode_pattern (by omega) hsmall, if_neg (by omega), if_pos rfl, he]
  · refine ⟨(e - f.minExponent + 1).toNat, m - Nat.pow 2 (f.precision - 1), by omega, by omega,
      encode_full (Nat.le_of_not_lt hsmall), ?_⟩
    rw [decode_pattern (by omega) (by omega), if_neg (by omega), if_neg (by omega)]
    congr 1 <;> omega

/-- A bit pattern is the only one of its number. -/
theorem encode_decode {bits : Nat}
    (h : bits < Nat.pow 2 (f.precision - 1) * (Nat.pow 2 f.exponentBits * 2))
    (hnan : f.decode bits ≠ .nan) : f.encode (f.decode bits) = bits := by
  obtain ⟨s, x, r, hx, hr, rfl⟩ := exists_pattern h
  rw [decode_pattern hx hr] at hnan ⊢
  by_cases hinfinite : x = Nat.pow 2 f.exponentBits - 1
  · rw [if_pos hinfinite] at hnan ⊢
    by_cases hzero : r = 0
    · rw [if_pos hzero, encode_infinite, hzero, hinfinite]
    · exact absurd (if_neg hzero) hnan
  · rw [if_neg hinfinite]
    by_cases hzero : x = 0
    · rw [if_pos hzero, encode_small hr, hzero]
    · have hexponent : (f.minExponent + x - 1 - f.minExponent + 1).toNat = x := by omega
      rw [if_neg hzero, encode_full (Nat.le_add_right _ _), hexponent, Nat.add_sub_cancel_left]

/-- The mantissa and exponent of a bit pattern are the one way the format has of writing it. -/
theorem holds_of_decode {bits : Nat} (hp : 0 < f.precision) (hexp : 1 < f.exponentBits)
    (h : f.decode bits = .finite s m e) : f.Holds m e := by
  have hsize := exponentSize_eq (f := f) (by omega)
  have hsucc := pow_precision hp
  have hfraction : bits % Nat.pow 2 (f.precision - 1) < Nat.pow 2 (f.precision - 1) :=
    Nat.mod_lt _ (Nat.pow_pos (by decide))
  have hexponent : bits / Nat.pow 2 (f.precision - 1) % Nat.pow 2 f.exponentBits <
      Nat.pow 2 f.exponentBits := Nat.mod_lt _ (Nat.pow_pos (by decide))
  have htwo : 2 ≤ Nat.pow 2 (f.exponentBits - 1) := by
    calc 2 = Nat.pow 2 1 := rfl
      _ ≤ _ := Nat.pow_le_pow_right (by decide) (by omega)
  have hrange : f.minExponent ≤ f.maxExponent := by rw [minExponent, maxExponent]; omega
  rw [decode] at h
  split at h
  · split at h <;> cases h
  · split at h
    · cases h
      exact ⟨by omega, .inr rfl, le_rfl, hrange⟩
    · cases h
      exact ⟨by omega, .inl (by omega), by omega, by omega⟩

/-! ### Units -/

/-- The quotient `num / den` in units of `2 ^ e`, as a quotient. -/
def inUnits (num den : Nat) : Int → Nat × Nat
  | .ofNat e => (num, den * Nat.pow 2 e)
  | .negSucc e => (num * Nat.pow 2 (e + 1), den)

theorem mantissaAt_eq (num den : Nat) (e : Int) :
    mantissaAt num den e = divEven (inUnits num den e).1 (inUnits num den e).2 := by
  cases e <;> rfl

theorem inUnits_pos (hden : 0 < den) (e : Int) : 0 < (inUnits num den e).2 := by
  cases e with
  | ofNat e => exact Nat.mul_pos hden (Nat.pow_pos (by decide))
  | negSucc e => exact hden

theorem inUnits_eq (hden : 0 < den) (h : (num : ℚ) / den = m * 2 ^ e) :
    (inUnits num den e).1 = m * (inUnits num den e).2 := by
  have hden' : (den : ℚ) ≠ 0 := by exact_mod_cast hden.ne'
  rw [div_eq_iff hden'] at h
  cases e with
  | ofNat e =>
      have : (num : ℚ) = (m * (den * 2 ^ e) : Nat) := by
        rw [h, Int.ofNat_eq_natCast, zpow_natCast]
        push_cast
        ring
      exact_mod_cast this
  | negSucc e =>
      have : ((num * 2 ^ (e + 1) : Nat) : ℚ) = (m * den : Nat) := by
        rw [zpow_negSucc] at h
        push_cast
        rw [h]
        field_simp
      exact_mod_cast this

theorem divEven_mul_right {k d : Nat} (hd : 0 < d) : divEven (k * d) d = k := by
  rw [divEven_of_dvd (Nat.dvd_mul_left d k) hd, Nat.mul_div_cancel k hd]

theorem mantissaAt_of_value (hden : 0 < den) (h : (num : ℚ) / den = m * 2 ^ e) :
    mantissaAt num den e = m := by
  rw [mantissaAt_eq, inUnits_eq hden h, divEven_mul_right (inUnits_pos hden e)]

theorem floor_of_value (hden : 0 < den) (h : (num : ℚ) / den = m * 2 ^ e) :
    (inUnits num den e).1 / (inUnits num den e).2 = m := by
  rw [inUnits_eq hden h, Nat.mul_div_cancel m (inUnits_pos hden e)]

/-! ### Rounding -/

theorem lt_two_zpow_of_log2 {n : Nat} : (n : ℚ) < 2 ^ ((n.log2 : Int) + 1) := by
  have h : n < 2 ^ (n.log2 + 1) := Nat.lt_log2_self
  exact_mod_cast h

theorem two_zpow_le_of_log2 {n : Nat} (hn : 0 < n) : (2 : ℚ) ^ (n.log2 : Int) ≤ n := by
  have h : 2 ^ n.log2 ≤ n := Nat.log2_self_le hn.ne'
  exact_mod_cast h

/-- The difference of the logarithms is that of the quotient, or one more. -/
theorem value_bounds (hnum : 0 < num) (hden : 0 < den) :
    (2 : ℚ) ^ ((num.log2 : Int) - den.log2 - 1) < num / den ∧
      (num : ℚ) / den < 2 ^ ((num.log2 : Int) - den.log2 + 1) := by
  have hden' : (0 : ℚ) < den := by exact_mod_cast hden
  have hpos (k : Int) : (0 : ℚ) < 2 ^ k := by positivity
  constructor
  · rw [lt_div_iff₀ hden']
    calc (2 : ℚ) ^ ((num.log2 : Int) - den.log2 - 1) * den
        < 2 ^ ((num.log2 : Int) - den.log2 - 1) * 2 ^ ((den.log2 : Int) + 1) :=
          mul_lt_mul_of_pos_left lt_two_zpow_of_log2 (hpos _)
      _ = 2 ^ (num.log2 : Int) := by
          rw [← zpow_add₀ two_ne_zero]
          congr 1
          ring
      _ ≤ num := two_zpow_le_of_log2 hnum
  · rw [div_lt_iff₀ hden']
    calc (num : ℚ) < 2 ^ ((num.log2 : Int) + 1) := lt_two_zpow_of_log2
      _ = 2 ^ ((num.log2 : Int) - den.log2 + 1) * 2 ^ (den.log2 : Int) := by
          rw [← zpow_add₀ two_ne_zero]
          congr 1
          ring
      _ ≤ 2 ^ ((num.log2 : Int) - den.log2 + 1) * den :=
          mul_le_mul_of_nonneg_left (two_zpow_le_of_log2 hden) (hpos _).le

/-- The exponent of the first attempt at rounding, as the logarithms give it. -/
def firstExponent (f : Format) (num den : Nat) : Int :=
  max f.minExponent ((num.log2 : Int) - den.log2 - f.precision)

theorem nearest_eq (hnum : num ≠ 0) :
    f.nearest s num den =
      let low := f.firstExponent num den
      let e := if (inUnits num den low).1 / (inUnits num den low).2 < Nat.pow 2 f.precision then low
        else low + 1
      let m := mantissaAt num den e
      let (m, e) := if m < Nat.pow 2 f.precision then (m, e) else (m / 2, e + 1)
      if f.maxExponent < e then .infinite s else .finite s m e := by
  rw [nearest, if_neg hnum, firstExponent]
  dsimp only
  generalize max f.minExponent _ = low
  cases low <;> rfl

/-- The first attempt at a number of the format has its exponent, or the one below. -/
theorem firstExponent_of_value (hp : 0 < f.precision) (h : f.Holds m e) (hnum : 0 < num)
    (hden : 0 < den) (hvalue : (num : ℚ) / den = m * 2 ^ e) :
    f.firstExponent num den = e ∨
      f.firstExponent num den = e - 1 ∧ Nat.pow 2 (f.precision - 1) ≤ m := by
  obtain ⟨hlow, hhigh⟩ := value_bounds hnum hden
  rw [hvalue] at hlow hhigh
  have hmin := h.minExponent_le
  have hpos : (0 : ℚ) < 2 ^ e := by positivity
  have hbelow {k : Nat} (hm : m < Nat.pow 2 k) :
      (num.log2 : Int) - den.log2 - 1 < k + e := by
    have hm' : (m : ℚ) < 2 ^ (k : Int) := by exact_mod_cast hm
    rw [← zpow_lt_zpow_iff_right₀ (one_lt_two (α := ℚ)), zpow_add₀ two_ne_zero]
    exact hlow.trans (mul_lt_mul_of_pos_right hm' hpos)
  have htop := hbelow h.lt
  rw [firstExponent]
  by_cases hfull : Nat.pow 2 (f.precision - 1) ≤ m
  · have hm' : (2 : ℚ) ^ ((f.precision - 1 : Nat) : Int) ≤ m := by exact_mod_cast hfull
    have hbottom : ((f.precision - 1 : Nat) : Int) + e < (num.log2 : Int) - den.log2 + 1 := by
      rw [← zpow_lt_zpow_iff_right₀ (one_lt_two (α := ℚ)), zpow_add₀ two_ne_zero]
      exact (mul_le_mul_of_nonneg_right hm' hpos.le).trans_lt hhigh
    omega
  · have hsmall := hbelow (Nat.lt_of_not_le hfull)
    have he := h.full.resolve_left hfull
    omega

/-- A number of the format is rounded to itself. -/
theorem nearest_of_value (hp : 0 < f.precision) (h : f.Holds m e) (hm : 0 < m) (hden : 0 < den)
    (hvalue : (num : ℚ) / den = m * 2 ^ e) : f.nearest s num den = .finite s m e := by
  have hnum : 0 < num := by
    rcases Nat.eq_zero_or_pos num with rfl | hnum
    · have hpos : (0 : ℚ) < m * 2 ^ e := by positivity
      rw [← hvalue, Nat.cast_zero, zero_div] at hpos
      exact absurd hpos (lt_irrefl 0)
    · exact hnum
  have hexponent : (if (inUnits num den (f.firstExponent num den)).1 /
      (inUnits num den (f.firstExponent num den)).2 < Nat.pow 2 f.precision
      then f.firstExponent num den else f.firstExponent num den + 1) = e := by
    rcases firstExponent_of_value hp h hnum hden hvalue with he | ⟨he, hfull⟩
    · rw [he, floor_of_value hden hvalue, if_pos h.lt]
    · -- one exponent below, the mantissa is twice as large, which is too large
      have hdouble : (num : ℚ) / den = (2 * m : Nat) * 2 ^ (e - 1) := by
        rw [hvalue, zpow_sub_one₀ two_ne_zero]
        push_cast
        ring
      have hsucc := pow_precision hp
      rw [he, floor_of_value hden hdouble, if_neg (by omega)]
      omega
  rw [nearest_eq hnum.ne']
  dsimp only
  rw [hexponent, mantissaAt_of_value hden hvalue, if_pos h.lt]
  exact if_neg (by have := h.le_maxExponent; omega)

/-! ### Conversions -/

theorem fraction_pos (m : Nat) (e : Int) : 0 < (Binary.fraction m e).2 := by
  cases e with
  | ofNat e => exact Nat.one_pos
  | negSucc e => exact Nat.pow_pos (by decide)

theorem fraction_value (m : Nat) (e : Int) :
    ((Binary.fraction m e).1 : ℚ) / (Binary.fraction m e).2 = m * 2 ^ e := by
  cases e with
  | ofNat e =>
      rw [Binary.fraction, Int.ofNat_eq_natCast, zpow_natCast, Nat.pow_eq]
      push_cast
      ring
  | negSucc e =>
      rw [Binary.fraction, zpow_negSucc, Nat.pow_eq]
      push_cast
      field_simp

/-- A number that another size holds as well is the same number there. -/
theorem convert_of_value {m' : Nat} {e' : Int} (hp : 0 < f.precision) (h : f.Holds m e)
    (hm : 0 < m) (hvalue : (m' : ℚ) * 2 ^ e' = m * 2 ^ e) :
    f.convert (.finite s m' e') = .finite s m e := by
  rw [convert, nearestScaled]
  exact nearest_of_value hp h hm (fraction_pos m' e') ((fraction_value m' e').trans hvalue)

theorem convert_zero : f.convert (.finite s 0 e) = .finite s 0 f.minExponent := by
  have hnum : (Binary.fraction 0 e).1 = 0 := by
    cases e with
    | ofNat e => exact Nat.zero_mul _
    | negSucc e => rfl
  exact if_pos hnum

/-- The integer with a magnitude and a sign. -/
def signedInt (negative : Bool) (k : Nat) : Int :=
  if negative then -(k : Int) else k

theorem natAbs_signedInt (s : Bool) (k : Nat) : (signedInt s k).natAbs = k := by
  cases s
  · exact Int.natAbs_natCast k
  · exact (Int.natAbs_neg k).trans (Int.natAbs_natCast k)

theorem signedInt_neg {k : Nat} (hk : 0 < k) : decide (signedInt s k < 0) = s := by
  cases s
  · exact decide_eq_false (Int.not_lt.2 (Int.natCast_nonneg k))
  · exact decide_eq_true (Int.neg_neg_of_pos (Int.natCast_pos.2 hk))

/-- An integer that the format holds is the same number there. -/
theorem ofInt_of_value {k : Nat} (hp : 0 < f.precision) (h : f.Holds m e) (hm : 0 < m)
    (hvalue : (k : ℚ) = m * 2 ^ e) : f.ofInt (signedInt s k) = .finite s m e := by
  have hk : (0 : ℚ) < k := by
    rw [hvalue]
    positivity
  rw [ofInt, natAbs_signedInt, signedInt_neg (by exact_mod_cast hk)]
  exact nearest_of_value hp h hm Nat.one_pos (by rw [Nat.cast_one, div_one, hvalue])

/-- A number that is an integer rounds to that integer. -/
theorem round?_of_isIntegral (h : (Binary.finite s m e).isIntegral = true) :
    ∃ k : Nat, (k : ℚ) = m * 2 ^ e ∧
      (Binary.finite s m e).round? .toZero = some (signedInt s k) := by
  refine ⟨(Binary.fraction m e).1 / (Binary.fraction m e).2, ?_, rfl⟩
  have hdvd : (Binary.fraction m e).2 ∣ (Binary.fraction m e).1 :=
    Nat.dvd_of_mod_eq_zero (eq_of_beq h)
  rw [Nat.cast_div_charZero hdvd, fraction_value]

theorem isIntegral_of_value {k : Nat} (hvalue : (k : ℚ) = m * 2 ^ e) :
    (Binary.finite s m e).isIntegral = true := by
  have hden : ((Binary.fraction m e).2 : ℚ) ≠ 0 := by exact_mod_cast (fraction_pos m e).ne'
  rw [← fraction_value, eq_div_iff hden] at hvalue
  have hnum : k * (Binary.fraction m e).2 = (Binary.fraction m e).1 := by exact_mod_cast hvalue
  rw [Binary.isIntegral]
  dsimp only
  rw [← hnum, Nat.mul_mod_left]
  rfl

/-- Double precision holds every mantissa of its length that is not scaled too far. -/
theorem exists_double {k : Nat} (hk : 0 < k) (hlt : k < 9007199254740992) (hmin : -1022 ≤ e)
    (hmax : e ≤ 971) : ∃ m' e', double.Holds m' e' ∧ 0 < m' ∧ (m' : ℚ) * 2 ^ e' = k * 2 ^ e := by
  have hlog : k.log2 < 53 := (Nat.log2_lt hk.ne').2 hlt
  have hshift : k.log2 + (52 - k.log2) = 52 := by omega
  refine ⟨k * 2 ^ (52 - k.log2), e - (52 - k.log2 : Nat), ⟨?_, Or.inl ?_, ?_, ?_⟩,
    by positivity, ?_⟩
  · calc k * 2 ^ (52 - k.log2) < 2 ^ (k.log2 + 1) * 2 ^ (52 - k.log2) :=
          Nat.mul_lt_mul_of_pos_right Nat.lt_log2_self (by positivity)
      _ = Nat.pow 2 double.precision := by
          rw [← pow_add, Nat.add_right_comm, hshift]
          rfl
  · calc Nat.pow 2 (double.precision - 1) = 2 ^ k.log2 * 2 ^ (52 - k.log2) := by
          rw [← pow_add, hshift]
          rfl
      _ ≤ k * 2 ^ (52 - k.log2) := Nat.mul_le_mul_right _ (Nat.log2_self_le hk.ne')
  · show (-1074 : Int) ≤ _
    omega
  · show _ ≤ (971 : Int)
    omega
  · rw [zpow_sub₀ two_ne_zero, zpow_natCast]
    push_cast
    field_simp

/-- Every number of single precision is one of double precision. -/
theorem Holds.widen (h : single.Holds m e) (hm : 0 < m) :
    ∃ m' e', double.Holds m' e' ∧ 0 < m' ∧ (m' : ℚ) * 2 ^ e' = m * 2 ^ e := by
  have hlt : m < 16777216 := h.lt
  have hmin : (-149 : Int) ≤ e := h.minExponent_le
  have hmax : e ≤ (104 : Int) := h.le_maxExponent
  exact exists_double hm (by omega) (by omega) (by omega)

end Format

end Elementwise.Number
