import Elementwise.Proofs.Number.Binary
import Mathlib

/-!
Machine numbers and the numbers they stand for.  A machine number that is a number at all is made
from the number it stands for, and the other way round; so whatever computes the number computes the
machine number.
-/

namespace Elementwise.Number

open Float.Model (UnpackedFloat)
open Float.Model.UnpackedFloat (unpackExponent unpackMantissa packedNaN packComponents)

/-! ### Fields of a bit vector -/

section Fields

variable {spec : Float.Model.Format} {b : BitVec spec.numBits}

theorem toNat_unpackExponent (b : BitVec spec.numBits) :
    (unpackExponent b).toNat =
      b.toNat / Nat.pow 2 spec.mantissaBitsWithoutImplicit % Nat.pow 2 spec.exponentBits := by
  rw [UnpackedFloat.unpackExponent_def, BitVec.extractLsb'_toNat, Nat.shiftRight_eq_div_pow]
  rfl

theorem toNat_unpackMantissa (b : BitVec spec.numBits) :
    (unpackMantissa b).toNat = b.toNat % Nat.pow 2 spec.mantissaBitsWithoutImplicit := by
  rw [UnpackedFloat.unpackMantissa_def, BitVec.extractLsb'_toNat, Nat.shiftRight_zero]
  rfl

theorem unpackExponent_eq_neg_one_iff : unpackExponent b = -1#_ ↔
    b.toNat / Nat.pow 2 spec.mantissaBitsWithoutImplicit % Nat.pow 2 spec.exponentBits =
      Nat.pow 2 spec.exponentBits - 1 := by
  rw [← toNat_unpackExponent, BitVec.neg_one_eq_allOnes, ← BitVec.toNat_inj, BitVec.toNat_allOnes]
  rfl

variable {f : Format} (hm : spec.mantissaBitsWithoutImplicit = f.precision - 1)
  (he : spec.exponentBits = f.exponentBits)
include hm he

/-- The pattern of a finite number is that of a machine number. -/
theorem valid_of_pattern {s : Bool} {x r : Nat} (hx : x + 1 < Nat.pow 2 f.exponentBits)
    (hr : r < Nat.pow 2 (f.precision - 1)) (hb : b.toNat = f.pattern s x r) : spec.Valid b := by
  refine ⟨fun hones => ?_⟩
  have hexponent := unpackExponent_eq_neg_one_iff.1 hones
  rw [hb, hm, he, Format.pattern_div_mod (by omega) hr] at hexponent
  omega

/-- The pattern of a machine number that stands for no number is the chosen one. -/
theorem eq_packedNaN_of_decode (hb : spec.Valid b) (h : f.decode b.toNat = .nan) :
    b = packedNaN spec := by
  rw [Format.decode, ← hm, ← he] at h
  split at h
  · rename_i hexponent
    split at h
    · cases h
    · rename_i hfraction
      refine hb.eq_packedNaN (unpackExponent_eq_neg_one_iff.2 hexponent) fun hzero => hfraction ?_
      rw [← toNat_unpackMantissa, hzero, BitVec.toNat_zero]
  · split at h <;> cases h

theorem decode_ne_nan (hsize : 2 ≤ spec.exponentBits) (hb : spec.Valid b)
    (h : (UnpackedFloat.unpack spec b).isNaN = false) : f.decode b.toNat ≠ .nan := by
  intro hnan
  have hchosen := eq_packedNaN_of_decode hm he hb hnan
  rw [(UnpackedFloat.isNaN_unpack_iff_of_valid hb hsize).2 hchosen] at h
  cases h

end Fields

/-! ### Double precision -/

theorem ofFloat_ne_nan {x : Float} (h : x.isNaN = false) : Binary.ofFloat x ≠ .nan :=
  decode_ne_nan (f := .double) rfl rfl (by decide) x.toModel.valid h

theorem isNaN_of_finite {x : Float} {s : Bool} {m : Nat} {e : Int}
    (hx : Binary.ofFloat x = .finite s m e) : x.isNaN = false := by
  have hnan : Binary.ofFloat Float.nan = .nan := by decide
  rw [Float.isNaN_eq_decide_eq_nan, decide_eq_false_iff_not]
  rintro rfl
  rw [hnan] at hx
  cases hx

theorem unpacked_isNaN_of_isFinite {u : UnpackedFloat} (h : u.isFinite = true) : u.isNaN = false := by
  cases u with
  | notANumber => cases h
  | infinity | zero | finite => rfl

theorem toFloat_ofFloat {x : Float} (h : x.isNaN = false) : (Binary.ofFloat x).toFloat = x := by
  have hencode := Format.encode_decode (f := .double) x.toBits.toNat_lt (ofFloat_ne_nan h)
  rw [Binary.ofFloat, Binary.toFloat, hencode, UInt64.ofNat_toNat, Float.ofBits_toBits]

theorem exists_finite {x : Float} (h : x.isFinite = true) :
    ∃ s m e, Binary.ofFloat x = .finite s m e := by
  have hnan : x.isNaN = false := unpacked_isNaN_of_isFinite h
  cases hx : Binary.ofFloat x with
  | nan => exact absurd hx (ofFloat_ne_nan hnan)
  | finite s m e => exact ⟨s, m, e, rfl⟩
  | infinite s =>
      have hinfinite : (Binary.infinite s).toFloat.isFinite = false := by cases s <;> decide
      rw [← toFloat_ofFloat hnan, hx, hinfinite] at h
      cases h

theorem ofFloat_toFloat {s : Bool} {m : Nat} {e : Int} (h : Format.double.Holds m e) :
    Binary.ofFloat (Binary.toFloat (.finite s m e)) = .finite s m e := by
  obtain ⟨x, r, hx, hr, hencode, hdecode⟩ :=
    Format.encode_eq_pattern (s := s) h (by decide) (by decide)
  have hlt : x < Nat.pow 2 Format.double.exponentBits := by omega
  have hbits : (UInt64.ofNat (Format.double.pattern s x r)).toNat = Format.double.pattern s x r :=
    UInt64.toNat_ofNat_of_lt' (Format.pattern_lt hlt hr)
  have hvalid : Float.Model.Format.binary64.Valid
      (UInt64.ofNat (Format.double.pattern s x r)).toBitVec :=
    valid_of_pattern (f := .double) rfl rfl hx hr hbits
  have htoBits : (Float.ofBits (UInt64.ofNat (Format.double.pattern s x r))).toBits =
      UInt64.ofNat (Format.double.pattern s x r) :=
    congrArg UInt64.ofBitVec (UnpackedFloat.pack_unpack_of_valid hvalid)
  rw [Binary.toFloat, hencode, Binary.ofFloat, htoBits, hbits, hdecode]

/-! ### Negation -/

/-- Negation changes the sign of a pattern and nothing else. -/
theorem pack_neg (spec : Float.Model.Format) {u : UnpackedFloat} (hu : u ≠ .notANumber) :
    ∃ sign exponent mantissa, u.pack spec = packComponents spec sign exponent mantissa ∧
      u.neg.pack spec = packComponents spec (-sign) exponent mantissa := by
  cases u with
  | notANumber => exact absurd rfl hu
  | infinity s => exact ⟨s, -1#_, 0, rfl, rfl⟩
  | zero s => exact ⟨s, 0, 0, rfl, rfl⟩
  | finite s m e hm =>
      simp only [UnpackedFloat.neg, UnpackedFloat.pack]
      split
      · exact ⟨s, -1#_, 0, rfl, rfl⟩
      · split
        · exact ⟨s, _, _, rfl, rfl⟩
        · exact ⟨s, _, _, rfl, rfl⟩

theorem toNat_append {w v : Nat} (x : BitVec w) (y : BitVec v) :
    (x ++ y).toNat = Nat.pow 2 v * x.toNat + y.toNat := by
  rw [BitVec.toNat_append, ← Nat.shiftLeft_add_eq_or_of_lt y.isLt, Nat.shiftLeft_eq, Nat.mul_comm]
  rfl

theorem toNat_packComponents {spec : Float.Model.Format} {f : Format}
    (hm : spec.mantissaBitsWithoutImplicit = f.precision - 1)
    (he : spec.exponentBits = f.exponentBits) (sign : UnpackedFloat.Sign)
    (exponent : BitVec spec.exponentBits) (mantissa : BitVec spec.mantissaBitsWithoutImplicit) :
    (packComponents spec sign exponent mantissa).toNat =
      f.pattern (sign == .negative) exponent.toNat mantissa.toNat := by
  have hsign : sign.toBitVec.toNat = (sign == UnpackedFloat.Sign.negative).toNat := by
    cases sign <;> rfl
  rw [packComponents, toNat_append, toNat_append, hsign, Format.pattern, ← hm, ← he]

/-- Negation is the number with the other sign. -/
theorem ofFloat_neg {x : Float} (h : x.isNaN = false) :
    Binary.ofFloat (-x) = (Binary.ofFloat x).opposite := by
  have hnumber : x.toModel.unpack ≠ .notANumber := by
    intro hnan
    have hisNaN : x.isNaN = true := congrArg UnpackedFloat.isNaN hnan
    rw [h] at hisNaN
    cases hisNaN
  obtain ⟨sign, exponent, mantissa, hpack, hneg⟩ := pack_neg .binary64 hnumber
  have hself : x.toBits.toBitVec = packComponents .binary64 sign exponent mantissa :=
    (UnpackedFloat.pack_unpack_of_valid x.toModel.valid).symm.trans hpack
  have hother : (-x).toBits.toBitVec = packComponents .binary64 (-sign) exponent mantissa := hneg
  have hsign : (-sign == UnpackedFloat.Sign.negative) = !(sign == UnpackedFloat.Sign.negative) := by
    cases sign <;> rfl
  rw [Binary.ofFloat, Binary.ofFloat, ← UInt64.toNat_toBitVec, ← UInt64.toNat_toBitVec, hself,
    hother, toNat_packComponents (f := .double) rfl rfl,
    toNat_packComponents (f := .double) rfl rfl, hsign]
  exact Format.decode_pattern_not exponent.isLt mantissa.isLt

/-! ### Single precision -/

theorem ofFloat32_ne_nan {x : Float32} (h : x.isNaN = false) : Binary.ofFloat32 x ≠ .nan :=
  decode_ne_nan (f := .single) rfl rfl (by decide) x.toModel.valid h

theorem toFloat32_ofFloat32 {x : Float32} (h : x.isNaN = false) :
    (Binary.ofFloat32 x).toFloat32 = x := by
  have hencode := Format.encode_decode (f := .single) x.toBits.toNat_lt (ofFloat32_ne_nan h)
  rw [Binary.ofFloat32, Binary.toFloat32, hencode, UInt32.ofNat_toNat, Float32.ofBits_toBits]

theorem exists_finite32 {x : Float32} (h : x.isFinite = true) :
    ∃ s m e, Binary.ofFloat32 x = .finite s m e := by
  have hnan : x.isNaN = false := unpacked_isNaN_of_isFinite h
  cases hx : Binary.ofFloat32 x with
  | nan => exact absurd hx (ofFloat32_ne_nan hnan)
  | finite s m e => exact ⟨s, m, e, rfl⟩
  | infinite s =>
      have hinfinite : (Binary.infinite s).toFloat32.isFinite = false := by cases s <;> decide
      rw [← toFloat32_ofFloat32 hnan, hx, hinfinite] at h
      cases h

theorem ofFloat32_toFloat32 {s : Bool} {m : Nat} {e : Int} (h : Format.single.Holds m e) :
    Binary.ofFloat32 (Binary.toFloat32 (.finite s m e)) = .finite s m e := by
  obtain ⟨x, r, hx, hr, hencode, hdecode⟩ :=
    Format.encode_eq_pattern (s := s) h (by decide) (by decide)
  have hlt : x < Nat.pow 2 Format.single.exponentBits := by omega
  have hbits : (UInt32.ofNat (Format.single.pattern s x r)).toNat = Format.single.pattern s x r :=
    UInt32.toNat_ofNat_of_lt' (Format.pattern_lt hlt hr)
  have hvalid : Float.Model.Format.binary32.Valid
      (UInt32.ofNat (Format.single.pattern s x r)).toBitVec :=
    valid_of_pattern (f := .single) rfl rfl hx hr hbits
  have htoBits : (Float32.ofBits (UInt32.ofNat (Format.single.pattern s x r))).toBits =
      UInt32.ofNat (Format.single.pattern s x r) :=
    congrArg UInt32.ofBitVec (UnpackedFloat.pack_unpack_of_valid hvalid)
  rw [Binary.toFloat32, hencode, Binary.ofFloat32, htoBits, hbits, hdecode]

/-! ### From one size to the other -/

section Sizes

variable {x : Float32} {s : Bool} {m : Nat} {e : Int}

theorem widen_infinite (hx : Binary.ofFloat32 x = .infinite s) :
    widen x = (Binary.infinite s).toFloat := by
  rw [widen, hx]
  rfl

/-- A number of single precision is the same number in double precision. -/
theorem ofFloat_widen (hx : Binary.ofFloat32 x = .finite s m e) :
    ∃ m' e', Binary.ofFloat (widen x) = .finite s m' e' ∧ (m' : ℚ) * 2 ^ e' = m * 2 ^ e := by
  have hholds : Format.single.Holds m e := Format.holds_of_decode (by decide) (by decide) hx
  rw [widen, hx]
  rcases Nat.eq_zero_or_pos m with rfl | hm
  · refine ⟨0, Format.double.minExponent, ?_, by simp⟩
    rw [Format.convert_zero]
    cases s <;> decide
  · obtain ⟨m', e', hholds', hm', hvalue⟩ := hholds.widen hm
    refine ⟨m', e', ?_, hvalue⟩
    rw [Format.convert_of_value (by decide) hholds' hm' hvalue.symm, ofFloat_toFloat hholds']

/-- A number of single precision comes back from double precision. -/
theorem narrow_widen (h : x.isNaN = false) : narrow (widen x) = x := by
  have hself := toFloat32_ofFloat32 h
  cases hx : Binary.ofFloat32 x with
  | nan => exact absurd hx (ofFloat32_ne_nan h)
  | infinite s =>
      rw [widen_infinite hx, ← hself, hx]
      cases s <;> decide
  | finite s m e =>
      have hholds : Format.single.Holds m e := Format.holds_of_decode (by decide) (by decide) hx
      obtain ⟨m', e', hwide, hvalue⟩ := ofFloat_widen hx
      rw [narrow, hwide, ← hself, hx]
      rcases Nat.eq_zero_or_pos m with rfl | hm
      · rw [Nat.cast_zero, zero_mul, mul_eq_zero_iff_right (by positivity), Nat.cast_eq_zero]
          at hvalue
        rw [hvalue, Format.convert_zero, hholds.eq_minExponent]
      · rw [Format.convert_of_value (by decide) hholds hm hvalue]

end Sizes

/-! ### Zero -/

/-- A number of double precision, zero without its sign. -/
def unsignZero (x : Float) : Float :=
  if x == 0 then 0 else x

/-- A number of single precision, zero without its sign. -/
def unsignZero32 (x : Float32) : Float32 :=
  if x == 0 then 0 else x

theorem unsignZero_of_ne {x : Float} (h : ∀ s e, Binary.ofFloat x ≠ .finite s 0 e) :
    unsignZero x = x := by
  refine if_neg fun hzero => ?_
  obtain ⟨-, -, rfl | ⟨rfl, -⟩ | ⟨rfl, -⟩⟩ := Float.beq_iff_ne_nan_and_eq.1 hzero
  · exact h false Format.double.minExponent (by decide)
  · exact h false Format.double.minExponent (by decide)
  · exact h true Format.double.minExponent (by decide)

theorem unsignZero_of_pos {x : Float} {s : Bool} {m : Nat} {e : Int}
    (hx : Binary.ofFloat x = .finite s m e) (hm : 0 < m) : unsignZero x = x := by
  refine unsignZero_of_ne fun s' e' hzero => ?_
  rw [hx] at hzero
  cases hzero
  exact Nat.lt_irrefl 0 hm

theorem unsignZero32_of_ne {x : Float32} (h : ∀ s e, Binary.ofFloat32 x ≠ .finite s 0 e) :
    unsignZero32 x = x := by
  refine if_neg fun hzero => ?_
  obtain ⟨-, -, rfl | ⟨rfl, -⟩ | ⟨rfl, -⟩⟩ := Float32.beq_iff_ne_nan_and_eq.1 hzero
  · exact h false Format.single.minExponent (by decide)
  · exact h false Format.single.minExponent (by decide)
  · exact h true Format.single.minExponent (by decide)

theorem unsignZero32_of_pos {x : Float32} {s : Bool} {m : Nat} {e : Int}
    (hx : Binary.ofFloat32 x = .finite s m e) (hm : 0 < m) : unsignZero32 x = x := by
  refine unsignZero32_of_ne fun s' e' hzero => ?_
  rw [hx] at hzero
  cases hzero
  exact Nat.lt_irrefl 0 hm

/-! ### Integers -/

section Integers

variable {s : Bool} {m k : Nat} {e : Int}

/-- The integer that a number is makes the number, without the sign of a zero. -/
theorem floatOfInt_of_value {x : Float} (h : x.isNaN = false)
    (hx : Binary.ofFloat x = .finite s m e) (hvalue : (k : ℚ) = m * 2 ^ e) :
    floatOfInt (Format.signedInt s k) = unsignZero x := by
  have hholds : Format.double.Holds m e := Format.holds_of_decode (by decide) (by decide) hx
  have hself := toFloat_ofFloat h
  rw [hx] at hself
  rcases Nat.eq_zero_or_pos m with rfl | hm
  · rw [Nat.cast_zero, zero_mul, Nat.cast_eq_zero] at hvalue
    rw [hvalue, ← hself, hholds.eq_minExponent]
    cases s <;> decide
  · rw [floatOfInt, Format.ofInt_of_value (by decide) hholds hm hvalue, hself,
      unsignZero_of_pos hx hm]

theorem float32OfInt_of_value {x : Float32} (h : x.isNaN = false)
    (hx : Binary.ofFloat32 x = .finite s m e) (hvalue : (k : ℚ) = m * 2 ^ e) :
    float32OfInt (Format.signedInt s k) = unsignZero32 x := by
  have hholds : Format.single.Holds m e := Format.holds_of_decode (by decide) (by decide) hx
  have hself := toFloat32_ofFloat32 h
  rw [hx] at hself
  rcases Nat.eq_zero_or_pos m with rfl | hm
  · rw [Nat.cast_zero, zero_mul, Nat.cast_eq_zero] at hvalue
    rw [hvalue, ← hself, hholds.eq_minExponent]
    cases s <;> decide
  · rw [float32OfInt, Format.ofInt_of_value (by decide) hholds hm hvalue, hself,
      unsignZero32_of_pos hx hm]

/-- Double precision holds every integer of its length; zero has no sign there. -/
theorem ofFloat_floatOfInt (s : Bool) (hk : k < 9007199254740992) :
    ∃ m e, Binary.ofFloat (floatOfInt (Format.signedInt s k)) = .finite (s && k != 0) m e ∧
      (k : ℚ) = m * 2 ^ e := by
  rcases Nat.eq_zero_or_pos k with rfl | hpos
  · refine ⟨0, Format.double.minExponent, ?_, by simp⟩
    cases s <;> decide
  · obtain ⟨m, e, hholds, hm, hvalue⟩ :=
      Format.exists_double (e := 0) hpos hk (by decide) (by decide)
    rw [zpow_zero, mul_one] at hvalue
    refine ⟨m, e, ?_, hvalue.symm⟩
    rw [floatOfInt, Format.ofInt_of_value (by decide) hholds hm hvalue.symm,
      ofFloat_toFloat hholds, bne_iff_ne.2 hpos.ne', Bool.and_true]

end Integers

end Elementwise.Number
