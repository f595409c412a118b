import Elementwise.Proofs.Number.Machine
import Elementwise.Value.Decoding
import Elementwise.Value.Json

/-!
Numbers read back from JSON.  An integer is read as a 64-bit word and then checked against its kind;
a floating point number is read from the integer it is, from itself, or from the word for an
infinity, and each of these makes the number again.
-/

namespace Elementwise

open Number

namespace Value

theorem decode_numeric {k : NumericKind} (hk : k ≠ .char) (j : Json) :
    decode (.numeric k) j = decodeNumber j k := by
  rw [decode, if_neg hk]

/-! ### Integers -/

section Integers

variable {n : Int} {k : NumericKind}

/-- The integers of JSON are those of the two 64-bit words. -/
theorem numberSource_integer (hmin : WordKind.int64.min ≤ n) (hmax : n ≤ WordKind.uint64.max) :
    ∃ (k' : WordKind) (w : Word k'), w.val = n ∧
      numberSource (.number (.integer n)) k = .ok (.number (.word k' w)) := by
  rw [numberSource, JsonNumber.int64?, JsonNumber.uint64?]
  by_cases hsigned : n ≤ WordKind.int64.max
  · have hword : Word.ofInt? .int64 n = some ⟨n, hmin, hsigned⟩ := dif_pos ⟨hmin, hsigned⟩
    rw [hword]
    exact ⟨.int64, .wrap .int64 n, congrArg Word.val (Word.wrap_val ⟨n, hmin, hsigned⟩), rfl⟩
  · have hunsigned : WordKind.uint64.min ≤ n :=
      Int.le_of_lt (Int.lt_of_le_of_lt (by decide) (Int.lt_of_not_ge hsigned))
    have hword : Word.ofInt? .uint64 n = some ⟨n, hunsigned, hmax⟩ := dif_pos ⟨hunsigned, hmax⟩
    have hnone : Word.ofInt? .int64 n = none := dif_neg fun h => hsigned h.2
    rw [hnone, hword]
    exact ⟨.uint64, .wrap .uint64 n, congrArg Word.val (Word.wrap_val ⟨n, hunsigned, hmax⟩), rfl⟩

theorem decodeNumber_integer (hmin : WordKind.int64.min ≤ n) (hmax : n ≤ WordKind.uint64.max) :
    decodeNumber (.number (.integer n)) k =
      ((Eval.checkInt n k).map .number).mapError fun f => .ofFault f (.numeric k) := by
  obtain ⟨k', w, rfl, hsource⟩ := numberSource_integer (k := k) hmin hmax
  rw [decodeNumber, hsource]
  rfl

theorem decodeNumber_word {k : WordKind} (w : Word k) :
    decodeNumber (.number (.integer w.val)) (.word k) = .ok (.number (.word k w)) := by
  have hkind : WordKind.int64.min ≤ k.min ∧ k.max ≤ WordKind.uint64.max := by cases k <;> decide
  rw [decodeNumber_integer (Int.le_trans hkind.1 w.min_le) (Int.le_trans w.le_max hkind.2),
    Eval.checkInt, Word.ofInt?_eq_some.2 rfl]
  rfl

end Integers

/-! ### Floating point -/

section Floats

variable {x : Float} {s : Bool} {m : Nat} {e : Int} {text : String}

theorem floatJson_infinite (hx : Binary.ofFloat x = .infinite s) :
    floatJson x text = .string text := by
  rw [floatJson, hx]
  rfl

theorem pos_of_not_isIntegral (h : (Binary.finite s m e).isIntegral = false) : 0 < m := by
  rcases Nat.eq_zero_or_pos m with rfl | hm
  · cases e with
    | ofNat e => simp [Binary.isIntegral, Binary.fraction] at h
    | negSucc e => simp [Binary.isIntegral, Binary.fraction] at h
  · exact hm

/-- A small integer is written as such. -/
theorem floatJson_of_value {k : Nat} (hx : Binary.ofFloat x = .finite s m e)
    (hvalue : (k : ℚ) = m * 2 ^ e) (hk : k < integralBound) :
    floatJson x text = .number (.integer (Format.signedInt s k)) := by
  have hint := Format.isIntegral_of_value (s := s) hvalue
  obtain ⟨k', hvalue', hround⟩ := Format.round?_of_isIntegral hint
  have hsame : k' = k := by exact_mod_cast hvalue'.trans hvalue.symm
  rw [floatJson, hx, hround, hint, hsame]
  dsimp only
  rw [Format.natAbs_signedInt]
  exact if_pos ⟨rfl, hk⟩

/-- A finite number is written as the integer it is, or as itself. -/
theorem floatJson_finite (hx : Binary.ofFloat x = .finite s m e) :
    (∃ k : Nat, floatJson x text = .number (.integer (Format.signedInt s k)) ∧
      k < integralBound ∧ (k : ℚ) = m * 2 ^ e) ∨
    (floatJson x text = .number (.real x) ∧ 0 < m) := by
  rw [floatJson, hx]
  cases hint : (Binary.finite s m e).isIntegral with
  | false =>
      refine Or.inr ⟨?_, pos_of_not_isIntegral hint⟩
      rw [Binary.round?]
      exact if_neg fun h => Bool.false_ne_true h.1
  | true =>
      obtain ⟨k, hvalue, hround⟩ := Format.round?_of_isIntegral hint
      by_cases hbound : k < integralBound
      · refine Or.inl ⟨k, ?_, hbound, hvalue⟩
        rw [← floatJson_of_value hx hvalue hbound, floatJson, hx, hint]
      · rw [hround]
        dsimp only
        rw [Format.natAbs_signedInt]
        refine Or.inr ⟨if_neg fun h => hbound h.2, Nat.pos_of_ne_zero ?_⟩
        rintro rfl
        rw [Nat.cast_zero, zero_mul, Nat.cast_eq_zero] at hvalue
        exact hbound (hvalue ▸ by decide)

end Floats

/-! ### Reading floating point -/

/-- A small integer is converted to the kind of floating point. -/
theorem decodeNumber_signedInt (s : Bool) {k : Nat} (hk : k < integralBound) (kind : NumericKind) :
    decodeNumber (.number (.integer (Format.signedInt s k))) kind =
      ((Eval.checkInt (Format.signedInt s k) kind).map .number).mapError
        fun f => .ofFault f (.numeric kind) := by
  have hbound : integralBound = 9007199254740992 := rfl
  have hmin : WordKind.int64.min = -9223372036854775808 := rfl
  have hmax : WordKind.uint64.max = 18446744073709551615 := rfl
  have hnatAbs := Format.natAbs_signedInt s k
  exact decodeNumber_integer (by omega) (by omega)

/-- The words for the infinities are read as such. -/
theorem numberSource_infinity (s : Bool) {k : NumericKind} (hk : k.integral = false) :
    numberSource (.string (String.ofList (Format.signed s "Infinity".toList))) k =
      .ok (.double (Binary.infinite s).toFloat) := by
  cases s
  · rw [numberSource, hk, show (Binary.infinite false).toFloat = 1.0 / 0.0 by decide]
    rfl
  · rw [numberSource, hk, show (Binary.infinite true).toFloat = -1.0 / 0.0 by decide]
    rfl

/-- A number of double precision is read back, a zero without its sign. -/
theorem decodeNumber_double {x : Float} (h : x.isNaN = false) :
    decodeNumber (numberJson (.double x)) .double = .ok (.double (unsignZero x)) := by
  rw [numberJson]
  cases hx : Binary.ofFloat x with
  | nan => exact absurd hx (ofFloat_ne_nan h)
  | infinite s =>
      have hself := toFloat_ofFloat h
      rw [hx] at hself
      rw [floatJson_infinite hx, Number.text, floatText, hx, decodeNumber, Format.text,
        numberSource_infinity s rfl, hself, unsignZero_of_ne (by rw [hx]; rintro _ _ ⟨⟩)]
      rfl
  | finite s m e =>
      rcases floatJson_finite hx with ⟨k, hjson, hk, hvalue⟩ | ⟨hjson, hm⟩
      · rw [hjson, decodeNumber_signedInt s hk, ← floatOfInt_of_value h hx hvalue]
        rfl
      · rw [hjson, unsignZero_of_pos hx hm]
        rfl

/-- A number of single precision is read back, a zero without its sign. -/
theorem decodeNumber_single {x : Float32} (h : x.isNaN = false) :
    decodeNumber (numberJson (.single x)) .single = .ok (.single (unsignZero32 x)) := by
  have hnarrow := narrow_widen h
  rw [numberJson]
  cases hx : Binary.ofFloat32 x with
  | nan => exact absurd hx (ofFloat32_ne_nan h)
  | infinite s =>
      have hwide : Binary.ofFloat (widen x) = .infinite s := by
        rw [widen_infinite hx]
        cases s <;> decide
      rw [floatJson_infinite hwide, Number.text, float32Text, hx, decodeNumber, Format.text,
        numberSource_infinity s rfl, ← widen_infinite hx,
        unsignZero32_of_ne (by rw [hx]; rintro _ _ ⟨⟩)]
      show Except.ok (Value.single (narrow (widen x))) = _
      rw [hnarrow]
  | finite s m e =>
      obtain ⟨m', e', hwide, hsame⟩ := ofFloat_widen hx
      rcases floatJson_finite hwide with ⟨k, hjson, hk, hvalue⟩ | ⟨hjson, hm'⟩
      · rw [hjson, decodeNumber_signedInt s hk,
          ← float32OfInt_of_value h hx (hvalue.trans hsame)]
        rfl
      · have hm : 0 < m := by
          rcases Nat.eq_zero_or_pos m with rfl | hm
          · rw [Nat.cast_zero, zero_mul] at hsame
            exact absurd hsame (by positivity)
          · exact hm
        rw [hjson, unsignZero32_of_pos hx hm]
        show Except.ok (Value.single (narrow (widen x))) = _
        rw [hnarrow]

end Value

end Elementwise
