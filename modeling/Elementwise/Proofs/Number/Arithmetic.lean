import Elementwise.Proofs.Number.Machine
import Elementwise.Proofs.Number.Shortest

/-!
Machine arithmetic is correctly rounded.  An operation finds a mantissa of its exact result, cut off at
some bit, together with what is known of the bits behind; shifting it to the exponent of the format and
rounding it there gives the number of the format that is nearest to the exact result.
-/

namespace Elementwise.Number

open Float.Model (UnpackedFloat totalExponent)
open Float.Model.UnpackedFloat (Accuracy ExtendedMantissa Sign packComponents unpackMantissa unpackExponent)

/-! ### Cut mantissas -/

/-- A mantissa and the bit behind it, as an integer. -/
def halves (em : ExtendedMantissa) : Nat :=
  2 * em.mantissa + em.roundBit.toNat

theorem cast_halves (em : ExtendedMantissa) :
    (halves em : ℚ) = 2 * em.mantissa + em.roundBit.toNat := by
  rw [halves]
  push_cast
  rfl

theorem mantissa_ofMantissaAndAccuracy (m : Nat) (acc : Accuracy) :
    (ExtendedMantissa.ofMantissaAndAccuracy m acc).mantissa = m := by
  cases acc with
  | exact => rfl
  | inexact order => cases order <;> rfl

/-- A number cut off behind the first bit of its fraction, with a bit that tells whether there is
more. -/
structure IsCut (q : ℚ) (em : ExtendedMantissa) : Prop where
  le : (halves em : ℚ) ≤ 2 * q
  lt : 2 * q < halves em + 1
  exact_iff : em.stickyBit = false ↔ 2 * q = halves em

namespace IsCut

variable {q : ℚ} {em : ExtendedMantissa}

theorem shiftRightOne (h : IsCut q em) : IsCut (q / 2) em.shiftRightOne := by
  obtain ⟨m, round, sticky⟩ := em
  obtain ⟨hle, hlt, hexact⟩ := h
  have hnext : halves (ExtendedMantissa.shiftRightOne ⟨m, round, sticky⟩) = m := by
    have hbit : (m % 2 != 0).toNat = m % 2 := by
      rcases Nat.mod_two_eq_zero_or_one m with hm | hm <;> rw [hm] <;> rfl
    show 2 * (m / 2) + (m % 2 != 0).toNat = m
    rw [hbit, Nat.div_add_mod]
  have hhalves : (halves ⟨m, round, sticky⟩ : ℚ) = 2 * m + (round.toNat : ℚ) := cast_halves _
  rw [hhalves] at hle hlt hexact
  have hsticky : (ExtendedMantissa.shiftRightOne ⟨m, round, sticky⟩).stickyBit = (round || sticky) := rfl
  refine ⟨?_, ?_, ?_⟩ <;> rw [hnext]
  · have hround : (0 : ℚ) ≤ round.toNat := Nat.cast_nonneg _
    linarith
  · have hround : (round.toNat : ℚ) ≤ 1 := by exact_mod_cast Bool.toNat_le round
    linarith
  · rw [hsticky]
    cases round with
    | false =>
        rw [Bool.false_or, hexact, Bool.toNat_false, Nat.cast_zero]
        constructor <;> intro h <;> linarith
    | true =>
        rw [Bool.toNat_true, Nat.cast_one] at hle
        rw [Bool.true_or]
        exact ⟨fun h => absurd h (by decide), fun h => by linarith⟩

theorem shiftRight (h : IsCut q em) (n : Nat) : IsCut (q / 2 ^ n) (em >>> n) := by
  show IsCut _ (n.repeat ExtendedMantissa.shiftRightOne em)
  induction n with
  | zero => rwa [pow_zero, div_one]
  | succ n ih =>
      rw [pow_succ, ← div_div]
      exact ih.shiftRightOne

/-- The bits behind the mantissa say to which integer the number is rounded. -/
theorem isNearestEven (h : IsCut q em) : IsNearestEven q em.roundedMantissa := by
  obtain ⟨m, round, sticky⟩ := em
  obtain ⟨hle, hlt, hexact⟩ := h
  have hhalves : (halves ⟨m, round, sticky⟩ : ℚ) = 2 * m + (round.toNat : ℚ) := cast_halves _
  rw [hhalves] at hle hlt hexact
  dsimp only at hexact
  have hbelow (hq : (m : ℚ) ≤ q) (hq' : q < m + 1 / 2) : IsNearestEven q m := by
    have habs : |q - (m : Int)| < 1 / 2 := by
      rw [Int.cast_natCast, abs_of_nonneg (by linarith)]
      linarith
    exact ⟨habs.le, fun htie => absurd htie habs.ne⟩
  cases round with
  | false =>
      rw [Bool.toNat_false, Nat.cast_zero] at hle hlt
      have hself : ExtendedMantissa.roundedMantissa ⟨m, false, sticky⟩ = m := by cases sticky <;> rfl
      rw [hself]
      exact hbelow (by linarith) (by linarith)
  | true =>
      rw [Bool.toNat_true, Nat.cast_one] at hle hlt hexact
      cases sticky with
      | false =>
          have htie := hexact.1 rfl
          have hself : ExtendedMantissa.roundedMantissa ⟨m, true, false⟩ = m + m % 2 := rfl
          have habs : |q - ((m + m % 2 : Nat) : Int)| = 1 / 2 := by
            rcases Nat.mod_two_eq_zero_or_one m with hm | hm
            · rw [hm, Nat.add_zero, Int.cast_natCast, abs_of_pos] <;> linarith
            · rw [hm, Int.cast_natCast, Nat.cast_add, Nat.cast_one, abs_of_neg] <;> linarith
          rw [hself]
          exact ⟨habs.le, fun _ => (Int.even_coe_nat _).2 (Nat.even_iff.2 (by omega))⟩
      | true =>
          have hne : 2 * q ≠ 2 * m + 1 := fun h => absurd (hexact.2 h) (by decide)
          have hgt := lt_of_le_of_ne hle hne.symm
          have habs : |q - ((m + 1 : Nat) : Int)| < 1 / 2 := by
            push_cast
            rw [abs_of_neg (by linarith)]
            linarith
          exact ⟨habs.le, fun htie => absurd htie habs.ne⟩

/-- An integer has nothing behind its mantissa. -/
theorem of_exact (m : Nat) : IsCut m (.ofMantissaAndAccuracy m .exact) := by
  have hhalves : (halves (.ofMantissaAndAccuracy m .exact) : ℚ) = 2 * m := by
    show ((2 * m + 0 : Nat) : ℚ) = _
    push_cast
    ring
  refine ⟨?_, ?_, ?_⟩ <;> rw [hhalves]
  · linarith
  · exact ⟨fun _ => rfl, fun _ => rfl⟩

/-- The rest of a division tells what stands behind the quotient. -/
theorem of_fraction (m : Nat) {num den : Nat} (h : num < den) :
    IsCut (m + num / den)
      (.ofMantissaAndAccuracy m (Float.Model.UnpackedFloat.accuracyOfFraction num den)) := by
  have hden : (0 : ℚ) < den := by exact_mod_cast Nat.zero_lt_of_lt h
  have hlt : (num : ℚ) < den := by exact_mod_cast h
  rw [Float.Model.UnpackedFloat.accuracyOfFraction]
  split
  · rename_i hnum
    rw [hnum, Nat.cast_zero, zero_div, add_zero]
    exact of_exact m
  · rename_i hnum
    have hpos : (0 : ℚ) < num := by exact_mod_cast Nat.pos_of_ne_zero hnum
    have hhalf : (2 * (m + num / den) : ℚ) = 2 * m + (2 * num : Nat) / den := by
      push_cast
      ring
    have hcut {em : ExtendedMantissa} (b : Nat) (hem : halves em = 2 * m + b)
        (hle : (b : ℚ) * den ≤ (2 * num : Nat)) (hbelow : ((2 * num : Nat) : ℚ) < (b + 1) * den)
        (hexact : em.stickyBit = false ↔ ((2 * num : Nat) : ℚ) = b * den) : IsCut (m + num / den) em := by
      have hcast : (halves em : ℚ) = 2 * m + b := by exact_mod_cast hem
      rw [← le_div_iff₀ hden] at hle
      rw [← div_lt_iff₀ hden] at hbelow
      rw [← div_eq_iff hden.ne'] at hexact
      refine ⟨?_, ?_, ?_⟩ <;> rw [hhalf, hcast]
      · linarith
      · linarith
      · rw [hexact, add_right_inj]
    cases hcompare : compare (2 * num) den with
    | lt =>
        have hbound : ((2 * num : Nat) : ℚ) < den := by exact_mod_cast Nat.compare_eq_lt.1 hcompare
        refine hcut 0 rfl ?_ ?_ ⟨(nomatch ·), fun h => ?_⟩ <;> push_cast at * <;> linarith
    | eq =>
        have hbound : ((2 * num : Nat) : ℚ) = den := by exact_mod_cast Nat.compare_eq_eq.1 hcompare
        refine hcut 1 rfl ?_ ?_ ⟨fun _ => ?_, fun _ => rfl⟩ <;> push_cast at * <;> linarith
    | gt =>
        have hbound : (den : ℚ) < (2 * num : Nat) := by exact_mod_cast Nat.compare_eq_gt.1 hcompare
        refine hcut 1 rfl ?_ ?_ ⟨(nomatch ·), fun h => ?_⟩ <;> push_cast at * <;> linarith

/-- The mantissa is the whole part. -/
theorem bounds (h : IsCut q em) : (em.mantissa : ℚ) ≤ q ∧ q < em.mantissa + 1 := by
  have hround : (em.roundBit.toNat : ℚ) ≤ 1 := by exact_mod_cast Bool.toNat_le em.roundBit
  have hround' : (0 : ℚ) ≤ em.roundBit.toNat := Nat.cast_nonneg _
  have hle := h.le
  have hlt := h.lt
  rw [cast_halves] at hle hlt
  constructor <;> linarith

end IsCut

/-! ### Rounding a cut mantissa -/

/-- The number that an unpacked one is packed into. -/
def ofUnpacked (u : UnpackedFloat) : Binary :=
  Format.double.decode (u.pack .binary64).toNat

theorem ofUnpacked_unpack (x : Float) : ofUnpacked x.toModel.unpack = Binary.ofFloat x := by
  have hself : x.toModel.unpack.pack .binary64 = x.toBits.toBitVec :=
    Float.Model.UnpackedFloat.pack_unpack_of_valid x.toModel.valid
  rw [ofUnpacked, hself, UInt64.toNat_toBitVec, Binary.ofFloat]

/-- The exponent for a mantissa of double precision. -/
def targetExponent (m : Nat) (e : Int) : Int :=
  max ((m.log2 : Int) + 1 + e - 53) (-1074)

theorem targetExponent_eq (m : Nat) (e : Int) :
    Float.Model.Format.targetExponent .binary64 (totalExponent m e) = targetExponent m e :=
  rfl

section Packing

variable {sign : Sign} {m : Nat} {e : Int}

theorem ofUnpacked_components (sign : Sign) {x r : Nat} (hx : x < Nat.pow 2 11) (hr : r < Nat.pow 2 52) :
    Format.double.decode (packComponents .binary64 sign (.ofNat _ x) (.ofNat _ r)).toNat =
      if x = Nat.pow 2 11 - 1 then if r = 0 then .infinite (sign == .negative) else .nan
      else if x = 0 then .finite (sign == .negative) r Format.double.minExponent
      else .finite (sign == .negative) (Nat.pow 2 52 + r) (Format.double.minExponent + x - 1) := by
  have hx' : x % 2 ^ Float.Model.Format.exponentBits .binary64 = x := Nat.mod_eq_of_lt hx
  have hr' : r % 2 ^ Float.Model.Format.mantissaBitsWithoutImplicit .binary64 = r := Nat.mod_eq_of_lt hr
  rw [toNat_packComponents (f := .double) rfl rfl, BitVec.toNat_ofNat, BitVec.toNat_ofNat, hx', hr']
  exact Format.decode_pattern hx hr

theorem ofUnpacked_zero (sign : Sign) :
    ofUnpacked (.zero sign) = .finite (sign == .negative) 0 Format.double.minExponent :=
  (ofUnpacked_components sign (x := 0) (r := 0) (by decide) (by decide)).trans rfl

/-- A number with its one mantissa and exponent is packed as such, or as infinity. -/
theorem ofUnpacked_finite (sign : Sign) (hm : 0 < m) (hlt : m < Nat.pow 2 53)
    (hfull : Nat.pow 2 52 ≤ m ∨ e = -1074) (hmin : -1074 ≤ e) :
    ofUnpacked (.finite sign m e hm) = if 971 < e then .infinite (sign == .negative)
      else .finite (sign == .negative) m e := by
  have hsize : Nat.pow 2 11 = 2048 := rfl
  have hhidden : Nat.pow 2 52 = 4503599627370496 := rfl
  have hbound : Nat.pow 2 53 = 9007199254740992 := rfl
  have hexponents : 2 ^ Float.Model.Format.exponentBits .binary64 = 2048 := rfl
  have hmantissas : Float.Model.Format.mantissaBits .binary64 = 53 := rfl
  have hbias : (e + Float.Model.Format.exponentBias .binary64 +
      Float.Model.Format.mantissaBitsWithoutImplicit .binary64).toNat = (e + 1075).toNat := by
    show (e + (1023 : Nat) + (52 : Nat)).toNat = _
    omega
  rw [ofUnpacked, UnpackedFloat.pack]
  dsimp only
  rw [hbias, hexponents, hmantissas]
  by_cases hmax : 971 < e
  · rw [if_pos hmax, if_pos (by omega)]
    exact (ofUnpacked_components sign (x := 2047) (r := 0) (by decide) (by decide)).trans rfl
  · rw [if_neg hmax, if_neg (by omega)]
    rcases Nat.lt_or_ge m (Nat.pow 2 52) with hsmall | hlarge
    · have hlog : m.log2 < 52 := (Nat.log2_lt hm.ne').2 hsmall
      rw [if_neg (by omega), hfull.resolve_left (by omega)]
      exact (ofUnpacked_components sign (x := 0) (by decide) hsmall).trans rfl
    · -- the leading bit is not packed
      have hlog : m.log2 = 52 := (Nat.log2_eq_iff hm.ne').2 ⟨hlarge, hlt⟩
      have hdrop : BitVec.ofNat 52 m = BitVec.ofNat 52 (m - Nat.pow 2 52) := by
        rw [← BitVec.toNat_inj, BitVec.toNat_ofNat, BitVec.toNat_ofNat]
        omega
      have hpacked := ofUnpacked_components sign (x := (e + 1075).toNat) (r := m - Nat.pow 2 52)
        (by omega) (by omega)
      rw [if_neg (by omega), if_neg (by omega)] at hpacked
      rw [hlog, if_pos rfl, hdrop]
      have hexponent : Format.double.minExponent + (e + 1075).toNat - 1 = e := by
        have hmin' : Format.double.minExponent = -1074 := rfl
        omega
      rw [Nat.add_sub_cancel' hlarge, hexponent] at hpacked
      exact hpacked

/-- What rounding leaves of a mantissa and its exponent. -/
def ofRounded (sign : Sign) (rounded : ExtendedMantissa × Int) : UnpackedFloat :=
  if h : rounded.1.mantissa = 0 then .zero sign
  else .finite sign rounded.1.mantissa rounded.2 (Nat.pos_of_ne_zero h)

theorem ofUnpacked_ofRounded (sign : Sign) (hlt : m < Nat.pow 2 53)
    (hfull : Nat.pow 2 52 ≤ m ∨ e = -1074) (hmin : -1074 ≤ e) :
    ofUnpacked (ofRounded sign (.ofMantissaAndAccuracy m .exact, e)) =
      if 971 < e then .infinite (sign == .negative) else .finite (sign == .negative) m e := by
  rcases Nat.eq_zero_or_pos m with rfl | hm
  · obtain rfl := hfull.resolve_left (by decide)
    exact (ofUnpacked_zero sign).trans rfl
  · have hfinite : ofRounded sign (.ofMantissaAndAccuracy m .exact, e) = .finite sign m e hm :=
      dif_neg hm.ne'
    rw [hfinite, ofUnpacked_finite sign hm hlt hfull hmin]

end Packing

section Rounding

variable {q : ℚ} {m : Nat} {e : Int} {acc : Accuracy}

/-- The exponent for a mantissa is the one whose units the number is rounded to. -/
theorem isExponentOf_targetExponent (hlow : m * 2 ^ e ≤ q) (hhigh : q < (m + 1) * 2 ^ e)
    (he : e ≤ targetExponent m e) : Format.double.IsExponentOf q (targetExponent m e) := by
  have hunit : (0 : ℚ) < 2 ^ e := by positivity
  have hlog : (m : ℚ) + 1 ≤ 2 ^ ((m.log2 : Int) + 1) := by
    exact_mod_cast Nat.lt_log2_self (n := m)
  refine ⟨le_max_right _ _, ?_, ?_⟩
  · calc q < (m + 1) * 2 ^ e := hhigh
      _ ≤ 2 ^ ((m.log2 : Int) + 1) * 2 ^ e := mul_le_mul_of_nonneg_right hlog hunit.le
      _ = 2 ^ ((m.log2 : Int) + 1 + e) := (zpow_add₀ two_ne_zero _ _).symm
      _ ≤ 2 ^ ((53 : Nat) + targetExponent m e) :=
          zpow_le_zpow_right₀ one_le_two (by rw [targetExponent]; omega)
      _ = 2 ^ Format.double.precision * 2 ^ targetExponent m e := by
          rw [zpow_add₀ two_ne_zero, zpow_natCast]
          rfl
  · rcases max_choice ((m.log2 : Int) + 1 + e - 53) (-1074) with hfull | hleast
    · refine Or.inr ?_
      have hpos : 0 < m := by
        rcases Nat.eq_zero_or_pos m with rfl | hm
        · rw [targetExponent, hfull, Nat.log2_zero] at he
          omega
        · exact hm
      calc (2 : ℚ) ^ (Format.double.precision - 1) * 2 ^ targetExponent m e
          = 2 ^ ((52 : Nat) + targetExponent m e) := by
            rw [zpow_add₀ two_ne_zero, zpow_natCast]
            rfl
        _ = 2 ^ (m.log2 : Int) * 2 ^ e := by
            rw [← zpow_add₀ two_ne_zero, targetExponent, hfull]
            congr 1
            omega
        _ ≤ m * 2 ^ e := mul_le_mul_of_nonneg_right (Format.two_zpow_le_of_log2 hpos) hunit.le
        _ ≤ q := hlow
    · exact Or.inl hleast

/-- A mantissa that fits is not shifted. -/
theorem shiftToTargetExponent_of_lt (hm : m < Nat.pow 2 53) (he : -1074 ≤ e) :
    UnpackedFloat.shiftToTargetExponent .binary64 m e .exact =
      (.ofMantissaAndAccuracy m .exact, e) := by
  have hlog : m.log2 < 53 := by
    rcases Nat.eq_zero_or_pos m with rfl | hpos
    · rw [Nat.log2_zero]
      decide
    · exact (Nat.log2_lt hpos.ne').2 hm
  have hshift : (targetExponent m e - e).toNat = 0 := by
    rw [targetExponent]
    omega
  rw [UnpackedFloat.shiftToTargetExponent, targetExponent_eq, UnpackedFloat.shiftToExponent]
  rw [hshift, Nat.cast_zero, add_zero]
  rfl

/-- The first mantissa that does not fit is halved. -/
theorem shiftToTargetExponent_of_eq (he : -1074 ≤ e) :
    UnpackedFloat.shiftToTargetExponent .binary64 (Nat.pow 2 53) e .exact =
      (.ofMantissaAndAccuracy (Nat.pow 2 52) .exact, e + 1) := by
  have hlog : (Nat.pow 2 53).log2 = 53 := Nat.log2_two_pow
  have hshift : (targetExponent (Nat.pow 2 53) e - e).toNat = 1 := by
    rw [targetExponent, hlog]
    omega
  rw [UnpackedFloat.shiftToTargetExponent, targetExponent_eq, UnpackedFloat.shiftToExponent]
  rw [hshift]
  rfl

/-- Rounding a number of which a mantissa and what stands behind it are known gives the nearest number
of double precision. -/
theorem rounds_roundWithAccuracy (sign : Sign) (hcut : IsCut (q / 2 ^ e) (.ofMantissaAndAccuracy m acc))
    (he : e ≤ targetExponent m e) : Format.double.Rounds (sign == .negative) q
      (ofUnpacked (UnpackedFloat.roundWithAccuracy .binary64 sign m e acc)) := by
  have hunit : (0 : ℚ) < 2 ^ e := by positivity
  obtain ⟨hlow, hhigh⟩ := hcut.bounds
  rw [mantissa_ofMantissaAndAccuracy, le_div_iff₀ hunit] at hlow
  rw [mantissa_ofMantissaAndAccuracy, div_lt_iff₀ hunit] at hhigh
  have hexponent := isExponentOf_targetExponent hlow hhigh he
  have hnearest := (hcut.shiftRight (targetExponent m e - e).toNat).isNearestEven
  have hshift : e + (targetExponent m e - e).toNat = targetExponent m e := by omega
  rw [div_div, ← zpow_natCast, ← zpow_add₀ two_ne_zero, hshift] at hnearest
  have hround : UnpackedFloat.roundWithAccuracy .binary64 sign m e acc = ofRounded sign
      (UnpackedFloat.shiftToTargetExponent .binary64
        (ExtendedMantissa.ofMantissaAndAccuracy m acc >>> (targetExponent m e - e).toNat).roundedMantissa
        (e + (targetExponent m e - e).toNat) .exact) := rfl
  rw [hround, hshift]
  generalize (ExtendedMantissa.ofMantissaAndAccuracy m acc >>> (targetExponent m e - e).toNat).roundedMantissa
    = r at hnearest
  have hmin : -1074 ≤ targetExponent m e := le_max_right _ _
  rcases (Format.le_of_units hexponent hnearest).lt_or_eq with hlt | heq
  · rw [shiftToTargetExponent_of_lt hlt hmin,
      ofUnpacked_ofRounded sign hlt (Format.full_of_units hexponent hnearest) hmin]
    exact Format.rounds_of_lt (by decide) hexponent hnearest (by decide) hlt
  · have hcarry := Format.rounds_of_eq (s := sign == .negative) (by decide) hexponent hnearest heq
    replace heq : r = Nat.pow 2 53 := heq
    have hhalf : r / 2 = Nat.pow 2 52 := by rw [heq]
    rw [hhalf] at hcarry
    rw [heq, shiftToTargetExponent_of_eq hmin,
      ofUnpacked_ofRounded sign (by decide) (Or.inl (by decide)) (by omega)]
    exact hcarry

end Rounding

/-! ### Operands -/

section Operands

variable {x : Float} {sign : Sign} {s : Bool} {m : Nat} {e : Int} {hm : 0 < m}

/-- A machine number is unpacked to its one mantissa and exponent. -/
theorem holds_of_unpack (h : x.toModel.unpack = .finite sign m e hm) :
    m < Nat.pow 2 53 ∧ (Nat.pow 2 52 ≤ m ∨ e = -1074) ∧ -1074 ≤ e := by
  have hbias : Float.Model.Format.exponentBias .binary64 = 1023 := rfl
  have hfraction := (@unpackMantissa .binary64 x.toModel.toBits.toBitVec).isLt
  have hhidden : Nat.pow 2 52 = 4503599627370496 := rfl
  have hbound : Nat.pow 2 53 = 9007199254740992 := rfl
  have hmantissas : 2 ^ Float.Model.Format.mantissaBitsWithoutImplicit .binary64 = 4503599627370496 := rfl
  rw [hmantissas] at hfraction
  rw [Float.Model.unpack, UnpackedFloat.unpack] at h
  dsimp only at h
  split at h
  · split at h <;> cases h
  · split at h
    · rename_i hzero
      split at h
      · cases h
      · -- the least exponent, without a leading bit
        cases h
        rw [hbias, hzero]
        exact ⟨by omega, Or.inr rfl, by decide⟩
    · rename_i hzero
      have hexponent : 0 < (@unpackExponent .binary64 x.toModel.toBits.toBitVec).toNat :=
        Nat.pos_of_ne_zero fun h => hzero (BitVec.eq_of_toNat_eq h)
      cases h
      have hleading : (1#1 ++ @unpackMantissa .binary64 x.toModel.toBits.toBitVec).toNat =
          4503599627370496 + (@unpackMantissa .binary64 x.toModel.toBits.toBitVec).toNat :=
        toNat_append _ _
      rw [hbias, hleading]
      exact ⟨by omega, Or.inl (by omega), by omega⟩

/-- The sign of a number as the machine has it. -/
def signOf (negative : Bool) : Sign :=
  if negative then .negative else .positive

theorem signOf_beq (s : Bool) : (signOf s == .negative) = s := by
  cases s <;> rfl

theorem signOf_of_beq (h : (sign == .negative) = s) : sign = signOf s := by
  subst h
  cases sign <;> rfl

/-- A finite machine number is unpacked to its sign, mantissa and exponent, and a zero to its sign. -/
theorem unpack_of_finite (hx : Binary.ofFloat x = .finite s m e) :
    (m = 0 ∧ x.toModel.unpack = .zero (signOf s)) ∨
      ∃ hm, x.toModel.unpack = .finite (signOf s) m e hm := by
  have hself := (ofUnpacked_unpack x).trans hx
  cases hu : x.toModel.unpack with
  | notANumber =>
      rw [hu, show ofUnpacked .notANumber = .nan by decide] at hself
      cases hself
  | infinity sign =>
      rw [hu, show ofUnpacked (.infinity sign) = .infinite (sign == .negative) by
        cases sign <;> decide] at hself
      cases hself
  | zero sign =>
      rw [hu, ofUnpacked_zero, Binary.finite.injEq] at hself
      rw [← signOf_of_beq hself.1]
      exact Or.inl ⟨hself.2.1.symm, rfl⟩
  | finite sign m' e' hm =>
      obtain ⟨hlt, hfull, hmin⟩ := holds_of_unpack hu
      rw [hu, ofUnpacked_finite sign hm hlt hfull hmin] at hself
      split at hself
      · cases hself
      · rw [Binary.finite.injEq] at hself
        obtain ⟨hsign, rfl, rfl⟩ := hself
        rw [← signOf_of_beq hsign]
        exact Or.inr ⟨hm, rfl⟩

end Operands

/-! ### Operations -/

section Operations

variable {x y : Float} {s s' : Bool} {m m' : Nat} {e e' : Int}

theorem ofFloat_mul (x y : Float) : Binary.ofFloat (x * y) =
    ofUnpacked (UnpackedFloat.mul .binary64 x.toModel.unpack y.toModel.unpack) :=
  rfl

theorem ofFloat_div (x y : Float) : Binary.ofFloat (x / y) =
    ofUnpacked (UnpackedFloat.div .binary64 x.toModel.unpack y.toModel.unpack) :=
  rfl

theorem ofFloat_add (x y : Float) : Binary.ofFloat (x + y) =
    ofUnpacked (UnpackedFloat.add .binary64 x.toModel.unpack y.toModel.unpack) :=
  rfl

/-- Zero is rounded to zero. -/
theorem rounds_ofUnpacked_zero (s : Bool) :
    Format.double.Rounds s 0 (ofUnpacked (.zero (signOf s))) := by
  rw [ofUnpacked_zero, signOf_beq]
  exact Format.rounds_zero (by decide) (by decide) le_rfl (by positivity)

theorem le_log2_of_full (h : Nat.pow 2 52 ≤ m) : 52 ≤ m.log2 :=
  (Nat.le_log2 (Nat.ne_of_gt (Nat.lt_of_lt_of_le (by decide) h))).2 h

/-- A product of mantissas has an exponent that is not too large for it. -/
theorem le_targetExponent_mul (hm : 0 < m) (hm' : 0 < m') (h : Format.double.Holds m e)
    (h' : Format.double.Holds m' e') : e + e' ≤ targetExponent (m * m') (e + e') := by
  have hmin : Format.double.minExponent = -1074 := rfl
  have hbelow := h.minExponent_le
  have hbelow' := h'.minExponent_le
  have hproduct : m ≤ m * m' ∧ m' ≤ m * m' :=
    ⟨Nat.le_mul_of_pos_right m hm', Nat.le_mul_of_pos_left m' hm⟩
  rw [targetExponent]
  rcases h.full with hfull | hleast
  · have := le_log2_of_full (hfull.trans hproduct.1)
    omega
  · rcases h'.full with hfull | hleast'
    · have := le_log2_of_full (hfull.trans hproduct.2)
      omega
    · omega

/-- A product is the number nearest to the product of the numbers. -/
theorem rounds_mul (hx : Binary.ofFloat x = .finite s m e) (hy : Binary.ofFloat y = .finite s' m' e') :
    Format.double.Rounds (s != s') (m * 2 ^ e * (m' * 2 ^ e')) (Binary.ofFloat (x * y)) := by
  have hholds := Format.holds_of_decode (by decide) (by decide) hx
  have hholds' := Format.holds_of_decode (by decide) (by decide) hy
  have hsign : signOf s * signOf s' = signOf (s != s') := by cases s <;> cases s' <;> rfl
  rw [ofFloat_mul]
  rcases unpack_of_finite hx with ⟨rfl, hu⟩ | ⟨hm, hu⟩
  · rw [Nat.cast_zero, zero_mul, zero_mul, hu]
    rcases unpack_of_finite hy with ⟨-, hu'⟩ | ⟨hm', hu'⟩ <;> rw [hu', UnpackedFloat.mul, hsign] <;>
      exact rounds_ofUnpacked_zero _
  rcases unpack_of_finite hy with ⟨rfl, hu'⟩ | ⟨hm', hu'⟩
  · rw [Nat.cast_zero, zero_mul, mul_zero, hu, hu', UnpackedFloat.mul, hsign]
    exact rounds_ofUnpacked_zero _
  · have hcut : IsCut (m * 2 ^ e * (m' * 2 ^ e') / 2 ^ (e + e'))
        (.ofMantissaAndAccuracy (m * m') .exact) := by
      have hproduct : (m : ℚ) * 2 ^ e * (m' * 2 ^ e') / 2 ^ (e + e') = (m * m' : Nat) := by
        rw [zpow_add₀ two_ne_zero, mul_mul_mul_comm, mul_div_cancel_right₀ _ (by positivity)]
        push_cast
        rfl
      rw [hproduct]
      exact .of_exact _
    have hround := rounds_roundWithAccuracy (signOf (s != s')) hcut
      (le_targetExponent_mul hm hm' hholds hholds')
    rw [signOf_beq] at hround
    rwa [hu, hu', UnpackedFloat.mul, hsign]

/-- The dividend is shifted until the quotient has a full mantissa, or the least exponent. -/
theorem le_targetExponent_div {k : Nat} (hm : 0 < m) (hm' : 0 < m')
    (hk : e ≤ -1074 ∨ 53 + m'.log2 ≤ m.log2 + k) : e ≤ targetExponent (m * 2 ^ k / m') e := by
  rw [targetExponent]
  rcases hk with hleast | hfull
  · omega
  · have hquotient : 2 ^ 52 ≤ m * 2 ^ k / m' := by
      rw [Nat.le_div_iff_mul_le hm']
      calc 2 ^ 52 * m' ≤ 2 ^ 52 * 2 ^ (m'.log2 + 1) := Nat.mul_le_mul_left _ Nat.lt_log2_self.le
        _ = 2 ^ (53 + m'.log2) := by rw [← pow_add]; congr 1; omega
        _ ≤ 2 ^ (m.log2 + k) := Nat.pow_le_pow_right two_pos hfull
        _ = 2 ^ m.log2 * 2 ^ k := pow_add _ _ _
        _ ≤ m * 2 ^ k := Nat.mul_le_mul_right _ (Nat.log2_self_le hm.ne')
    have hlog := le_log2_of_full hquotient
    omega

/-- A quotient is the number nearest to the quotient of the numbers. -/
theorem rounds_div (hx : Binary.ofFloat x = .finite s m e) (hy : Binary.ofFloat y = .finite s' m' e')
    (hm' : 0 < m') :
    Format.double.Rounds (s != s') (m * 2 ^ e / (m' * 2 ^ e')) (Binary.ofFloat (x / y)) := by
  have hsign : signOf s / signOf s' = signOf (s != s') := by cases s <;> cases s' <;> rfl
  obtain ⟨hpos, hu'⟩ := (unpack_of_finite hy).resolve_left fun h => hm'.ne' h.1
  rw [ofFloat_div]
  rcases unpack_of_finite hx with ⟨rfl, hu⟩ | ⟨hm, hu⟩
  · rw [Nat.cast_zero, zero_mul, zero_div, hu, hu', UnpackedFloat.div, hsign]
    exact rounds_ofUnpacked_zero _
  · generalize ht : min (e - e') (Float.Model.Format.targetExponent .binary64
      (totalExponent m e - totalExponent m' e')) = t
    have htarget : Float.Model.Format.targetExponent .binary64 (totalExponent m e - totalExponent m' e') =
        max ((m.log2 + 1 + e) - (m'.log2 + 1 + e') - 53) (-1074) := rfl
    have hle : t ≤ e - e' := ht ▸ min_le_left _ _
    generalize hk : (e - e' - t).toNat = k
    have hcore : UnpackedFloat.divCore .binary64 m e m' e' =
        (m * 2 ^ k / m', t, UnpackedFloat.accuracyOfFraction (m * 2 ^ k % m') m') := by
      rw [UnpackedFloat.divCore, ht, hk, Nat.shiftLeft_eq]
    have hcut : IsCut (m * 2 ^ e / (m' * 2 ^ e') / 2 ^ t) (.ofMantissaAndAccuracy (m * 2 ^ k / m')
        (UnpackedFloat.accuracyOfFraction (m * 2 ^ k % m') m')) := by
      have hexponent : e = k + t + e' := by omega
      have hrest : ((m * 2 ^ k : Nat) : ℚ) = m' * (m * 2 ^ k / m' : Nat) + (m * 2 ^ k % m' : Nat) := by
        exact_mod_cast (Nat.div_add_mod _ m').symm
      have hne : (m' : ℚ) ≠ 0 := by exact_mod_cast hm'.ne'
      have hquotient : (m : ℚ) * 2 ^ e / (m' * 2 ^ e') / 2 ^ t =
          (m * 2 ^ k / m' : Nat) + (m * 2 ^ k % m' : Nat) / m' := by
        rw [← mul_div_cancel_left₀ ((m * 2 ^ k / m' : Nat) : ℚ) hne, ← add_div, ← hrest, hexponent,
          zpow_add₀ two_ne_zero, zpow_add₀ two_ne_zero, zpow_natCast]
        push_cast
        field_simp
      rw [hquotient]
      exact .of_fraction _ (Nat.mod_lt _ hm')
    have hround := rounds_roundWithAccuracy (signOf (s != s')) hcut
      (le_targetExponent_div (k := k) (e := t) hm hm' (by omega))
    rw [signOf_beq] at hround
    rwa [hu, hu', UnpackedFloat.div, hsign, hcore]

/-- A mantissa that may be short is first made longer and then rounded. -/
theorem rounds_round (sign : Sign) (hm : 0 < m) (e : Int) : Format.double.Rounds (sign == .negative)
    (m * 2 ^ e) (ofUnpacked (UnpackedFloat.round .binary64 sign m e)) := by
  generalize hk : (e - targetExponent m e).toNat = k
  have hround : UnpackedFloat.round .binary64 sign m e =
      UnpackedFloat.roundWithAccuracy .binary64 sign (m * 2 ^ k) (e - k) .exact := by
    rw [UnpackedFloat.round, targetExponent_eq, UnpackedFloat.decreaseExponent]
    dsimp only
    rw [hk, Nat.shiftLeft_eq]
  have hlog : (m * 2 ^ k).log2 = m.log2 + k := by
    rw [Nat.log2_eq_iff (by positivity)]
    constructor
    · rw [pow_add]
      exact Nat.mul_le_mul_right _ (Nat.log2_self_le hm.ne')
    · rw [Nat.add_right_comm, pow_add]
      exact Nat.mul_lt_mul_of_pos_right Nat.lt_log2_self (by positivity)
  have hvalue : (m : ℚ) * 2 ^ e / 2 ^ (e - k) = (m * 2 ^ k : Nat) := by
    rw [zpow_sub₀ two_ne_zero, zpow_natCast]
    push_cast
    field_simp
  rw [hround]
  refine rounds_roundWithAccuracy _ ?_ ?_
  · rw [hvalue]
    exact .of_exact _
  · rw [targetExponent] at hk ⊢
    rw [hlog]
    omega

theorem normalize_apply (sign : Sign) (hm : 0 < m) (e : Int) (zero : Sign) :
    UnpackedFloat.normalize .binary64 (sign.apply m) e zero =
      UnpackedFloat.round .binary64 sign m e := by
  have hpos : compare (m : Int) 0 = .gt := compare_gt_iff_gt.2 (by omega)
  have hneg : compare (-(m : Int)) 0 = .lt := compare_lt_iff_lt.2 (by omega)
  cases sign with
  | positive =>
      rw [UnpackedFloat.normalize, Sign.apply, hpos]
      rfl
  | negative =>
      rw [UnpackedFloat.normalize, Sign.apply, hneg]
      dsimp only
      rw [neg_neg]
      rfl

/-- A number of the format is rounded to itself. -/
theorem rounds_self (hx : Binary.ofFloat x = .finite s m e) :
    Format.double.Rounds s (m * 2 ^ e) (Binary.ofFloat x) := by
  have hholds := Format.holds_of_decode (by decide) (by decide) hx
  rw [hx]
  exact (Format.inInterval_self .double m e).rounds (by decide) hholds

/-- The sum of two numbers of one sign is the number nearest to the sum. -/
theorem rounds_add (hx : Binary.ofFloat x = .finite s m e) (hy : Binary.ofFloat y = .finite s m' e') :
    Format.double.Rounds s (m * 2 ^ e + m' * 2 ^ e') (Binary.ofFloat (x + y)) := by
  have hself := rounds_self hx
  have hself' := rounds_self hy
  rw [← ofUnpacked_unpack] at hself hself'
  rw [ofFloat_add]
  rcases unpack_of_finite hx with ⟨rfl, hu⟩ | ⟨hm, hu⟩
  · rw [Nat.cast_zero, zero_mul, zero_add, hu]
    rcases unpack_of_finite hy with ⟨rfl, hu'⟩ | ⟨hm', hu'⟩
    · rw [hu'] at hself' ⊢
      cases s <;> exact hself'
    · rw [hu'] at hself' ⊢
      exact hself'
  rcases unpack_of_finite hy with ⟨rfl, hu'⟩ | ⟨hm', hu'⟩
  · rw [hu] at hself
    rw [Nat.cast_zero, zero_mul, add_zero, hu, hu']
    exact hself
  · generalize ht : min e e' = t
    generalize hk : (e - t).toNat = k
    generalize hk' : (e' - t).toNat = k'
    have hsum : UnpackedFloat.add .binary64 (.finite (signOf s) m e hm) (.finite (signOf s) m' e' hm') =
        UnpackedFloat.round .binary64 (signOf s) (m * 2 ^ k + m' * 2 ^ k') t := by
      have happly : (signOf s).apply (m * 2 ^ k : Nat) + (signOf s).apply (m' * 2 ^ k' : Nat) =
          (signOf s).apply (m * 2 ^ k + m' * 2 ^ k' : Nat) := by
        push_cast
        cases s
        · rfl
        · exact (neg_add _ _).symm
      rw [UnpackedFloat.add, ht, UnpackedFloat.decreaseExponent, UnpackedFloat.decreaseExponent]
      dsimp only
      rw [hk, hk', Nat.shiftLeft_eq, Nat.shiftLeft_eq, happly, normalize_apply _ (by positivity)]
    have hround := rounds_round (signOf s) (m := m * 2 ^ k + m' * 2 ^ k') (by positivity) t
    have hexponent : e = k + t := by omega
    have hexponent' : e' = k' + t := by omega
    rw [signOf_beq] at hround
    rw [hu, hu', hsum, hexponent, hexponent', zpow_add₀ two_ne_zero, zpow_add₀ two_ne_zero, zpow_natCast,
      zpow_natCast, ← mul_assoc, ← mul_assoc, ← add_mul]
    push_cast at hround
    exact hround

end Operations

end Elementwise.Number
