import Elementwise.Proofs.Exact.Double
import Elementwise.Proofs.Exact.Reading
import Elementwise.Proofs.Value.Numbers

/-!
Decimals read back from JSON.  A decimal is written as the double it makes, never as text.  An integer of
the length of a double comes back as the same number.  So does a number of fifteen digits and 22 places at
most: its double is the nearest one, the shortest digits of that are its own, and both forms in which JSON
has them are read as a decimal with these digits.  Either comes back without the zeros at its end.  The
digits of a longer one are lost, or the whole number where the digits that are left make too great a
coefficient.
-/

namespace Elementwise

open Number Text

namespace Decimal

/-- A decimal that a double tells from all others: an integer of the length of a double, or a number of
fifteen digits and 22 places at most. -/
def FitsDouble (d : Decimal) : Prop :=
  (d.hasFraction = false ∧ d.truncate.coefficient < Value.integralBound) ∨
    (d.coefficient < 10 ^ 15 ∧ d.scale ≤ 22)

instance (d : Decimal) : Decidable d.FitsDouble :=
  inferInstanceAs (Decidable (_ ∨ _))

end Decimal

namespace Value

variable {d : Decimal}

/-- A number that is no integer is read from its text. -/
theorem numberSource_real {x : Float} (h : Decimal.parse? (JsonNumber.text (.real x)) = some d) :
    numberSource (.number (.real x)) .decimal = .ok (decimal d) := by
  have hsigned : (JsonNumber.real x).int64? = none := rfl
  have hunsigned : (JsonNumber.real x).uint64? = none := rfl
  rw [numberSource, hsigned, hunsigned, if_pos rfl, h]

theorem decode_decimal_of_integer (hfraction : d.hasFraction = false)
    (hsmall : d.truncate.coefficient < integralBound) :
    decode .decimal (decimal d).json = .ok (decimal d.normalize) := by
  obtain ⟨s, m, e, hx, hvalue, hs⟩ := Decimal.ofFloat_toFloat hfraction hsmall
  have hjson : (decimal d).json =
      .number (.integer (Format.signedInt s d.truncate.coefficient)) :=
    floatJson_of_value hx hvalue hsmall
  have hcheck (n : Int) : Eval.checkInt n .decimal = Eval.decimalOfInt n := rfl
  rw [hjson, decode_numeric (by rintro ⟨⟩), decodeNumber_signedInt s hsmall, hcheck,
    Eval.decimalOfInt, Decimal.ofInt?_signedInt _ rfl hs, Decimal.unsignZero_truncate hfraction]
  rfl

/-- A number with a fraction, of fifteen digits and 22 places at most, is not written as an integer. -/
theorem json_of_fraction (hfraction : d.hasFraction = true) (hdigits : d.coefficient < 10 ^ 15)
    (hplaces : d.scale ≤ 22) : (decimal d).json = .number (.real d.toFloat) := by
  obtain ⟨m, e, hx, hm, hround, hunit⟩ := Decimal.exists_toFloat hfraction hdigits hplaces
  rcases @floatJson_finite _ _ _ _ (Number.decimal d).text hx with ⟨i, -, -, hi⟩ | ⟨hjson, -⟩
  · -- the integer would be the number itself
    have hself : ((i * 10 ^ d.scale : Nat) : ℚ) * 10 ^ (-d.scale : Int) = m * 2 ^ e := by
      rw [← hi, zpow_neg, zpow_natCast]
      push_cast
      rw [mul_inv_cancel_right₀ (by positivity)]
    have hinteger := Format.inInterval_self .double m e
    rw [← hself] at hinteger
    have heq := RoundingInterval.eq_of_inInterval hunit (hround.inInterval (by decide) hm) hinteger
    have hne : d.coefficient % 10 ^ d.scale ≠ 0 := bne_iff_ne.1 hfraction
    exact absurd (Nat.mod_eq_zero_of_dvd (heq ▸ Nat.dvd_mul_left _ _)) hne
  · exact hjson

/-- The shortest digits of its double are its own. -/
theorem exists_text_of_fraction (hfraction : d.hasFraction = true) (hdigits : d.coefficient < 10 ^ 15)
    (hplaces : d.scale ≤ 22) : ∃ s : Scientific, s.IsNormal ∧
      s.value = d.coefficient * 10 ^ (-d.scale : Int) ∧
      JsonNumber.text (.real d.toFloat) = Format.signed d.negative s.json := by
  obtain ⟨m, e, hx, hm, hround, hunit⟩ := Decimal.exists_toFloat hfraction hdigits hplaces
  have hpos := (Decimal.coefficient_pos hfraction).ne'
  obtain ⟨n, k, hn, hsame, hshortest⟩ := exists_shortest_of_places (Or.inr rfl) .even
    (hplaces.trans (by decide)) hpos hm hround hunit
  refine ⟨Scientific.ofScaled n k, Scientific.isNormal_ofScaled hn k,
    (Scientific.value_ofScaled n k).trans hsame, ?_⟩
  rw [JsonNumber.text, floatJson?, hx]
  dsimp only
  rw [if_neg hm.ne', hshortest, Option.getD_some]

theorem decode_decimal_of_fraction (hfraction : d.hasFraction = true) (hdigits : d.coefficient < 10 ^ 15)
    (hplaces : d.scale ≤ 22) : decode .decimal (decimal d).json = .ok (decimal d.normalize) := by
  obtain ⟨s, hs, hvalue, htext⟩ := exists_text_of_fraction hfraction hdigits hplaces
  obtain ⟨p, hp, hple, hlength, hle⟩ := hs.exists_places hvalue (bne_iff_ne.1 hfraction)
  have hscale : p ≤ Decimal.maxScale := (hple.trans hplaces).trans (by decide)
  obtain ⟨hroom, hread⟩ := hs.parse?_json (hs.length_le (hle.trans_lt hdigits)) hp hlength hscale d.negative
  have hnormal : (⟨d.negative, ofDigits s.digits, p, hroom, hscale⟩ : Decimal) = d.normalize := by
    have hsame : (ofDigits s.digits : ℚ) / 10 ^ p = d.coefficient / 10 ^ d.scale := by
      have hexponent : s.exponent + 1 - s.digits.length = -(p : Int) := by omega
      rw [Scientific.value, hexponent, zpow_neg, zpow_neg, zpow_natCast, zpow_natCast] at hvalue
      rw [div_eq_mul_inv, div_eq_mul_inv, hvalue]
    refine Decimal.IsTrimmed.eq_normalize
      ⟨Or.inr hs.last, fun hzero : ofDigits s.digits = 0 => absurd (by rw [hzero]) hs.last⟩ ?_
    rw [Decimal.toRat_eq, Decimal.toRat_eq, Decimal.denominator_eq, Decimal.denominator_eq, hsame]
  rw [hnormal, ← htext] at hread
  rw [json_of_fraction hfraction hdigits hplaces, decode_numeric (by rintro ⟨⟩), decodeNumber,
    numberSource_real hread]
  rfl

/-- A decimal that fits a double is read back as the same number, without zeros at its end. -/
theorem decode_decimal_normalize (d : Decimal) (h : d.FitsDouble) :
    decode .decimal (decimal d).json = .ok (decimal d.normalize) ∧ d.sameNumber d.normalize = true := by
  refine ⟨?_, d.sameNumber_normalize⟩
  rcases h with ⟨hfraction, hsmall⟩ | ⟨hdigits, hplaces⟩
  · exact decode_decimal_of_integer hfraction hsmall
  · cases hfraction : d.hasFraction with
    | true => exact decode_decimal_of_fraction hfraction hdigits hplaces
    | false =>
        have hle : d.truncate.coefficient ≤ d.coefficient := Nat.div_le_self _ _
        exact decode_decimal_of_integer hfraction
          ((hle.trans_lt hdigits).trans (by decide : 10 ^ 15 < integralBound))

theorem decode_decimal_normalize_fraction :
    decode .decimal (decimal ⟨true, 150, 2, by decide, by decide⟩).json =
      .ok (decimal ⟨true, 15, 1, by decide, by decide⟩) :=
  (decode_decimal_normalize ⟨true, 150, 2, by decide, by decide⟩ (by decide)).1.trans rfl

/-- The first integer beyond the length of a double is read back as its neighbour, and the greatest decimal is
not read back at all. -/
theorem decode_decimal_beyond :
    (decode .decimal (decimal ⟨false, 9007199254740993, 0, by decide, by decide⟩).json =
        .ok (decimal ⟨false, 90071992547409920, 1, by decide, by decide⟩) ∧
      Decimal.sameNumber ⟨false, 9007199254740993, 0, by decide, by decide⟩
        ⟨false, 90071992547409920, 1, by decide, by decide⟩ = false) ∧
    decode .decimal (decimal .largest).json = .error ⟨.decimal, "number"⟩ :=
  ⟨⟨rfl, by decide⟩, rfl⟩

end Value

end Elementwise
