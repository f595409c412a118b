import Elementwise.Proofs.Exact.Arithmetic
import Elementwise.Proofs.Exact.Rounding
import Elementwise.Proofs.Exact.Widening
import Elementwise.Proofs.Outcome

/-!
Casts and checked conversions of exact numbers to integral kinds.  A checked conversion rounds to the
nearest integer and wants it in the kind; a cast takes an integer modulo the size of the kind, and
cuts the fraction of a decimal, whose whole part it wants in the kind.  Where a number is an integer
and is converted, it is cast to the same.
-/

namespace Elementwise

namespace Number

variable {k : WordKind} {m n : Int}

/-! ### Words modulo their size -/

theorem WordKind.size_eq (k : WordKind) : k.size = 2 ^ k.bits := by
  cases k <;> rfl

theorem WordKind.size_dvd {a b : WordKind} (h : b.bits ≤ a.bits) : b.size ∣ a.size := by
  rw [size_eq, size_eq]
  exact pow_dvd_pow 2 h

namespace Word

theorem wrap_congr (h : m ≡ n [ZMOD k.size]) : wrap k m = wrap k n := by
  have hrest : (m - k.min) % k.size = (n - k.min) % k.size := h.sub_right k.min
  ext
  simp only [wrap, hrest]

/-- Only one word is congruent to an integer. -/
theorem modEq_iff {w : Word k} : w.val ≡ n [ZMOD k.size] ↔ w = wrap k n := by
  constructor
  · intro h
    rw [← wrap_val w, wrap_congr h]
  · rintro rfl
    exact wrap_modEq k n

/-- Wrapping to fewer bits makes no difference before wrapping to more. -/
theorem wrap_wrap {a b : WordKind} (h : b.bits ≤ a.bits) (n : Int) :
    wrap b (wrap a n).val = wrap b n :=
  wrap_congr ((wrap_modEq a n).of_dvd (WordKind.size_dvd h))

end Word

/-! ### Integers of a kind -/

/-- Whether an integral kind has the integer; characters have the codes of 16 bits that are no
surrogates. -/
def NumericKind.Holds : NumericKind → Int → Prop
  | .char, n => (0 ≤ n ∧ n ≤ 0xFFFF) ∧ ¬(0xD800 ≤ n ∧ n ≤ 0xDFFF)
  | .word k, n => k.Holds n
  | _, _ => False

end Number

namespace Eval

open Number (NumericKind Word WordKind)

variable {k : NumericKind} {m : Number} {x : Int}

/-- The outcome is the integer as a number of the kind. -/
def IsInteger (k : NumericKind) (x : Int) (o : Outcome) : Prop :=
  ∃ m : Number, o = .ok (.number m) ∧ m.kind = k ∧ m.integer? = some x

/-! ### Integers that are checked -/

theorem charOf?_of_holds (h : NumericKind.char.Holds x) :
    ∃ c : Char, charOf? x.toNat = some c ∧ (c.toNat : Int) = x := by
  obtain ⟨⟨hmin, hmax⟩, hsurrogate⟩ := h
  have hvalid : x.toNat.isValidChar := by
    rw [Nat.isValidChar]
    omega
  have hchar : charOf? x.toNat = some (Char.ofNat x.toNat) := if_pos hvalid
  refine ⟨_, hchar, ?_⟩
  rw [charOf?_eq_some.1 hchar, Int.toNat_of_nonneg hmin]

/-- An integer is stored in a kind that has it. -/
theorem checkInt_of_holds (h : k.Holds x) :
    ∃ m, checkInt x k = .ok m ∧ m.kind = k ∧ m.integer? = some x := by
  cases k with
  | char =>
      obtain ⟨c, hc, hcode⟩ := charOf?_of_holds h
      have hrange : WordKind.uint16.Holds x := h.1
      refine ⟨.char c, ?_, rfl, congrArg some hcode⟩
      rw [checkInt, Word.ofInt?_of_holds hrange, Option.bind_some, hc]
  | word k =>
      exact ⟨_, by rw [checkInt, Word.ofInt?_of_holds h], rfl, rfl⟩
  | single | double | decimal => exact h.elim

theorem holds_of_charOf? {w : Word .uint16} {c : Char} (h : charOf? w.val.toNat = some c) :
    NumericKind.char.Holds w.val := by
  have hcode := charOf?_eq_some.1 h
  have hvalid : c.toNat.isValidChar := c.valid
  rw [Nat.isValidChar] at hvalid
  exact ⟨w.holds, by omega⟩

theorem checkInt_of_not_holds (hk : k.integral = true) (h : ¬k.Holds x) :
    checkInt x k = .error (overflow x k) := by
  cases k with
  | char =>
      rw [checkInt]
      split
      · rename_i c hc
        obtain ⟨w, hw, hc⟩ := Option.bind_eq_some_iff.1 hc
        exact absurd (Word.ofInt?_eq_some.1 hw ▸ holds_of_charOf? hc) h
      · rfl
  | word k => rw [checkInt, Word.ofInt?_of_not_holds h]
  | single | double | decimal => cases hk

/-- What is stored is what wrapping leaves. -/
theorem wrapInt_of_checkInt (hk : k.integral = true) (h : checkInt x k = .ok m) :
    wrapInt x k = .ok m := by
  cases k with
  | char =>
      rw [checkInt] at h
      split at h
      · rename_i c hc
        obtain ⟨w, hw, hcode⟩ := Option.bind_eq_some_iff.1 hc
        obtain rfl := Word.ofInt?_eq_some.1 hw
        rw [wrapInt, Word.wrap_val, hcode]
        exact h
      · cases h
  | word k =>
      rw [checkInt] at h
      split at h
      · rename_i w hw
        obtain rfl := Word.ofInt?_eq_some.1 hw
        rw [wrapInt, Word.wrap_val]
        exact h
      · cases h
  | single | double | decimal => cases hk

/-- An integer is stored where the kind has it, and overflows where it has not. -/
theorem map_checkInt (hk : k.integral = true) (x : Int) :
    (k.Holds x → IsInteger k x ((checkInt x k).map .number)) ∧
      (¬k.Holds x → Overflows ((checkInt x k).map .number)) := by
  constructor
  · intro h
    obtain ⟨m, hm, hkind, hx⟩ := checkInt_of_holds h
    exact ⟨m, by rw [hm]; rfl, hkind, hx⟩
  · intro h
    rw [checkInt_of_not_holds hk h]
    exact ⟨_, _, rfl⟩

/-! ### Numbers -/

section Numbers

variable {n : Number} {d : Decimal}

theorem convert_integer (hn : n.integer? = some x) (hk : k.integral = true) :
    convert (.number n) k = (checkInt x k).map .number := by
  cases n with
  | char c =>
      cases hn
      rw [convert, convertNumber, if_pos hk]
  | word j w =>
      cases hn
      rfl
  | single | double | decimal => cases hn

theorem cast_integer (hn : n.integer? = some x) (k : NumericKind) :
    cast (.number n) k = (wrapInt x k).map .number := by
  cases n with
  | char | word =>
      cases hn
      rfl
  | single | double | decimal => cases hn

theorem convert_decimal (d : Decimal) (k : WordKind) :
    convert (.decimal d) (.word k) = (checkInt (d.roundTo 0).toInt (.word k)).map .number :=
  rfl

theorem cast_decimal (d : Decimal) (hk : k.integral = true) :
    cast (.decimal d) k = (checkInt d.toInt k).map .number := by
  cases k with
  | char | word => rfl
  | single | double | decimal => cases hk

/-- A number is an integer of an integral kind or a decimal, if it is exact. -/
theorem integer?_or_decimal {q : ℚ} (hq : n.toRat? = some q) :
    (∃ x : Int, n.integer? = some x ∧ q = x) ∨ ∃ d : Decimal, n = .decimal d ∧ q = d.toRat := by
  cases n with
  | char | word =>
      cases hq
      exact Or.inl ⟨_, rfl, rfl⟩
  | decimal d =>
      cases hq
      exact Or.inr ⟨d, rfl, rfl⟩
  | single | double => cases hq

/-! ### Conversions -/

/-- The outcome of a checked conversion to a kind: the nearest integer where the kind has it, and a
fault where it has not; decimals are not converted to characters. -/
def ConvertsExactly (n : Number) (q : ℚ) (k : NumericKind) (o : Outcome) : Prop :=
  ∃ x : Int, IsNearestEven q x ∧
    (k.Holds x ∧ ¬(n.kind = .decimal ∧ k = .char) → IsInteger k x o) ∧
    (¬(k.Holds x ∧ ¬(n.kind = .decimal ∧ k = .char)) → ∃ f, o = .error f)

theorem convert_exactly {q : ℚ} (hq : n.toRat? = some q) (hk : k.integral = true) :
    ConvertsExactly n q k (convert (.number n) k) := by
  have hfault {o : Outcome} : Overflows o → ∃ f, o = .error f := fun ⟨_, _, h⟩ => ⟨_, h⟩
  rcases integer?_or_decimal hq with ⟨x, hx, rfl⟩ | ⟨d, rfl, rfl⟩
  · have hkind : n.kind ≠ .decimal := by
      rintro h
      cases n with
      | decimal => cases hx
      | _ => cases h
    obtain ⟨hstored, hoverflow⟩ := map_checkInt hk x
    rw [convert_integer hx hk]
    exact ⟨x, .intCast x, fun h => hstored h.1,
      fun h => hfault (hoverflow fun hx => h ⟨hx, fun h => hkind h.1⟩)⟩
  · refine ⟨_, d.isNearestEven_roundTo, ?_⟩
    cases k with
    | char => exact ⟨fun h => absurd ⟨rfl, rfl⟩ h.2, fun _ => ⟨_, rfl⟩⟩
    | word k =>
        obtain ⟨hstored, hoverflow⟩ := map_checkInt hk (d.roundTo 0).toInt
        rw [← convert_decimal] at hstored hoverflow
        exact ⟨fun h => hstored h.1, fun h => hfault (hoverflow fun hx => h ⟨hx, nofun⟩)⟩
    | single | double | decimal => cases hk

/-- An integer that is converted is cast to the same. -/
theorem cast_of_convert {q : ℚ} (hq : n.toRat? = some q) (hk : k.integral = true) (hx : q = x)
    {v : Value} (h : convert (.number n) k = .ok v) : cast (.number n) k = .ok v := by
  rcases integer?_or_decimal hq with ⟨y, hy, -⟩ | ⟨d, rfl, rfl⟩
  · rw [convert_integer hy hk] at h
    obtain ⟨m, hm, rfl⟩ := map_eq_ok h
    rw [cast_integer hy, wrapInt_of_checkInt hk hm]
    rfl
  · cases k with
    | char => cases h
    | word k =>
        have hround := d.isNearestEven_roundTo
        rw [hx] at hround
        have htruncate := d.toInt_eq_truncation
        rw [hx, truncation_intCast, ← hround.eq_of_intCast] at htruncate
        have hcast := cast_decimal d hk
        rw [htruncate, ← convert_decimal] at hcast
        exact hcast.trans h
    | single | double | decimal => cases hk

/-- Casting an integer to a word and on to one of no more bits is casting it there at once. -/
theorem cast_cast {a b : WordKind} (hn : n.integer? = some x) (h : b.bits ≤ a.bits) :
    (cast (.number n) (.word a) >>= fun v => cast v (.word b)) = cast (.number n) (.word b) := by
  rw [cast_integer hn, cast_integer hn]
  show (Except.ok (Value.number (.word b (Word.wrap b (Word.wrap a x).val))) : Outcome) = _
  rw [Word.wrap_wrap h]
  rfl

/-- What exact numbers are converted and cast to in an integral kind. -/
theorem convert_cast_exact {q : ℚ} (hq : n.toRat? = some q) (hk : k.integral = true) :
    ConvertsExactly n q k (convert (.number n) k) ∧
    (∀ (x : Int) (b : WordKind), q = x → n.kind.integral = true → k = .word b →
      ∃ w : Word b, cast (.number n) k = .ok (.number (.word b w)) ∧
        ∀ w' : Word b, w'.val ≡ x [ZMOD 2 ^ b.bits] ↔ w' = w) ∧
    (n.kind = .decimal →
      (k.Holds (truncation q) → IsInteger k (truncation q) (cast (.number n) k)) ∧
      (¬k.Holds (truncation q) → Overflows (cast (.number n) k))) ∧
    (∀ (x : Int) (v : Value), q = x → convert (.number n) k = .ok v →
      cast (.number n) k = .ok v) ∧
    ∀ a b : WordKind, n.kind.integral = true → k = .word b → b.bits ≤ a.bits →
      (cast (.number n) (.word a) >>= fun v => cast v k) = cast (.number n) k := by
  refine ⟨convert_exactly hq hk, ?_, ?_, fun x v hx h => cast_of_convert hq hk hx h, ?_⟩
  · rintro x b rfl hn rfl
    obtain ⟨y, hy⟩ := Number.exists_integer? hn
    have hxy := Option.some.inj (hq.symm.trans (Number.toRat?_of_integer? hy))
    rw [Int.cast_inj] at hxy
    subst hxy
    refine ⟨.wrap b x, cast_integer hy _, fun w => ?_⟩
    rw [← WordKind.size_eq]
    exact Word.modEq_iff
  · rcases integer?_or_decimal hq with ⟨x, hx, -⟩ | ⟨d, rfl, rfl⟩
    · intro h
      cases n with
      | decimal => cases hx
      | _ => cases h
    · intro _
      have hcast := cast_decimal d hk
      obtain ⟨hstored, hoverflow⟩ := map_checkInt hk d.toInt
      rw [← hcast, d.toInt_eq_truncation] at hstored hoverflow
      exact ⟨hstored, hoverflow⟩
  · rintro a b hn rfl h
    obtain ⟨x, hx⟩ := Number.exists_integer? hn
    exact cast_cast hx h

/-- Three and a half is converted to four and cast to three, and the greatest unsigned word of 64 bits
is cast to minus one, through 32 bits as well. -/
theorem convert_cast_exact_half :
    let half : Decimal := ⟨false, 35, 1, by decide, by decide⟩
    let greatest : Number := .word .uint64 (.wrap .uint64 (-1))
    (Number.decimal half).toRat? = some (7 / 2) ∧ truncation (7 / 2) = 3 ∧
      ConvertsExactly (.decimal half) (7 / 2) (.word .int32)
        (convert (.decimal half) (.word .int32)) ∧
      convert (.decimal half) (.word .int32) = .ok (.int32 (.wrap .int32 4)) ∧
      IsInteger (.word .int32) 3 (cast (.decimal half) (.word .int32)) ∧
      greatest.toRat? = some ((18446744073709551615 : Int) : ℚ) ∧
      cast (.number greatest) (.word .sbyte) = .ok (.number (.word .sbyte (.wrap .sbyte (-1)))) ∧
      (cast (.number greatest) (.word .int32) >>= fun v => cast v (.word .sbyte)) =
        cast (.number greatest) (.word .sbyte) := by
  intro half greatest
  have hhalf : (Number.decimal half).toRat? = some (7 / 2) := by
    rw [Number.toRat?, Decimal.toRat_eq]
    norm_num [half, Decimal.denominator]
  have htruncation : truncation (7 / 2) = 3 := by
    rw [truncation, if_pos (by norm_num), Int.floor_eq_iff]
    norm_num
  have hfour : convert (.decimal half) (.word .int32) = .ok (.int32 (.wrap .int32 4)) := by
    have hround : (half.roundTo 0).toInt = 4 := by decide
    rw [convert_decimal, hround]
    rfl
  have hgreatest : greatest.toRat? = some ((18446744073709551615 : Int) : ℚ) := rfl
  obtain ⟨hconvert, -, hcast, -⟩ := convert_cast_exact (k := .word .int32) hhalf rfl
  have hstored := (hcast rfl).1
  rw [htruncation] at hstored
  obtain ⟨-, -, -, -, hthrough⟩ := convert_cast_exact (k := .word .sbyte) hgreatest rfl
  exact ⟨hhalf, htruncation, hconvert, hfour, hstored ⟨by decide, by decide⟩, hgreatest, rfl,
    hthrough .int32 .sbyte rfl rfl (by decide)⟩

end Numbers

end Eval

end Elementwise
