import Elementwise.Proofs.Exact.Number
import Elementwise.Proofs.Soundness.Conversion

/-!
Implicit conversions to kinds of exact numbers.  An integer that fits its target is converted as it
is, and a kind widens only to kinds that hold its values.  Characters are the exception: some have a
code of more than 16 bits, and that is not kept by a character or an unsigned word of 16 bits.
-/

namespace Elementwise

open Number (NumericKind Word WordKind)

namespace Eval

variable {m n : Number} {k : NumericKind} {x y : Int}

/-! ### Integers that fit -/

theorem wrapInt_word {k : WordKind} (hmin : k.min ≤ x) (hmax : x ≤ k.max) :
    wrapInt x (.word k) = .ok (.word k ⟨x, hmin, hmax⟩) := by
  rw [wrapInt, Word.wrap_val ⟨x, hmin, hmax⟩]

theorem wrapInt_decimal (hx : x.natAbs < Decimal.coefficientBound) :
    ∃ d, wrapInt x .decimal = .ok (.decimal d) ∧ d.toRat = x := by
  obtain ⟨d, hd, hvalue⟩ := Decimal.exists_ofInt? hx
  exact ⟨d, by rw [wrapInt, decimalOfInt, hd], hvalue⟩

theorem uint16_min : WordKind.uint16.min = 0 :=
  rfl

theorem uint16_max : WordKind.uint16.max = 0xFFFF :=
  rfl

theorem charOf?_eq_some {code : Nat} {c : Char} : charOf? code = some c ↔ c.toNat = code := by
  unfold charOf?
  constructor
  · intro h
    split at h
    · rename_i hcode
      cases h
      rw [Char.ofNat, dif_pos hcode]
      rfl
    · cases h
  · rintro rfl
    have hvalid : c.toNat.isValidChar := c.valid
    rw [if_pos hvalid, Char.ofNat_toNat]

theorem wrapInt_char {c : Char} (hc : c.toNat ≤ 0xFFFF) :
    wrapInt c.toNat .char = .ok (.char c) := by
  have hmin : WordKind.uint16.min ≤ c.toNat := by
    rw [uint16_min]
    omega
  have hmax : (c.toNat : Int) ≤ WordKind.uint16.max := by
    rw [uint16_max]
    omega
  rw [wrapInt, Word.wrap_val ⟨c.toNat, hmin, hmax⟩, Int.toNat_natCast, charOf?_eq_some.2 rfl]

/-- What is wrapped to 16 bits has no more than these. -/
theorem le_of_wrapInt (h : wrapInt x k = .ok m) (hk : k = .char ∨ k = .word .uint16)
    (hm : m.integer? = some y) : y ≤ 0xFFFF := by
  have hmin := (Word.wrap .uint16 x).min_le
  have hmax := (Word.wrap .uint16 x).le_max
  rw [uint16_min] at hmin
  rw [uint16_max] at hmax
  rcases hk with rfl | rfl
  · rw [wrapInt] at h
    split at h
    · rename_i c hc
      cases h
      cases hm
      rw [charOf?_eq_some.1 hc, Int.toNat_of_nonneg hmin]
      exact hmax
    · cases h
  · cases h
    cases hm
    exact hmax

/-! ### Kinds that hold the values of another -/

theorem wordWidens_iff {a b : WordKind} :
    NumericKind.wordWidens a b = true ↔ b.min ≤ a.min ∧ a.max ≤ b.max := by
  rw [NumericKind.wordWidens, Bool.and_eq_true, decide_eq_true_iff, decide_eq_true_iff]

theorem char_toNat_lt (c : Char) : c.toNat < 0x110000 := by
  have hvalid : c.toNat.isValidChar := c.valid
  rw [Nat.isValidChar] at hvalid
  omega

/-- A word kind to which characters widen holds the code of each, unless it has 16 bits. -/
theorem char_le_max {b : WordKind} {c : Char} (hb : NumericKind.wordWidens .uint16 b = true)
    (hc : c.toNat ≤ 0xFFFF ∨ b ≠ .uint16) : (c.toNat : Int) ≤ b.max := by
  have hlt := char_toNat_lt c
  -- all other kinds that characters widen to have 32 bits or more
  have hmax : b = .uint16 ∨ 0x10FFFF ≤ b.max := by
    revert hb
    cases b <;> decide
  rcases hmax with rfl | hmax
  · rw [uint16_max]
    have := hc.resolve_right (fun hne => hne rfl)
    omega
  · omega

theorem natAbs_lt_coefficientBound {a : WordKind} (w : Word a) :
    w.val.natAbs < Decimal.coefficientBound := by
  have hmin : -18446744073709551616 ≤ a.min := by cases a <;> decide
  have hmax : a.max ≤ 18446744073709551616 := by cases a <;> decide
  have hbound : 18446744073709551616 < Decimal.coefficientBound := by decide
  have := w.min_le
  have := w.le_max
  omega

/-- Where a number widens to a kind of exact numbers the cast keeps what it stands for, unless it is
a character beyond the 16 bits of the target. -/
theorem castNumber_exact (hk : k.integral = true ∨ k = .decimal) (hw : n.kind.widensTo k = true)
    (hn : ∀ c, n = .char c → c.toNat ≤ 0xFFFF ∨ k ≠ .char ∧ k ≠ .word .uint16) :
    ∃ m q, castNumber n k = .ok m ∧ n.toRat? = some q ∧ m.toRat? = some q := by
  cases n with
  | char c =>
      cases k with
      | char =>
          have hc := (hn c rfl).resolve_right fun h => h.1 rfl
          exact ⟨_, _, wrapInt_char hc, rfl, rfl⟩
      | word b =>
          have hmin : b.min ≤ c.toNat := b.min_le_zero.trans (Int.natCast_nonneg _)
          have hc := (hn c rfl).imp_right fun h hb => h.2 (congrArg NumericKind.word hb)
          exact ⟨_, _, wrapInt_word hmin (char_le_max hw hc), rfl, rfl⟩
      | decimal =>
          have hlt := char_toNat_lt c
          have hbound : 0x110000 < Decimal.coefficientBound := by decide
          obtain ⟨d, hd, hvalue⟩ := wrapInt_decimal (x := c.toNat) (by omega)
          exact ⟨_, _, hd, rfl, congrArg some hvalue⟩
      | single | double => rcases hk with h | h <;> cases h
  | word a w =>
      cases k with
      | char => cases hw
      | word b =>
          obtain ⟨hmin, hmax⟩ := wordWidens_iff.1 hw
          exact ⟨_, _, wrapInt_word (hmin.trans w.min_le) (w.le_max.trans hmax), rfl, rfl⟩
      | decimal =>
          obtain ⟨d, hd, hvalue⟩ := wrapInt_decimal (natAbs_lt_coefficientBound w)
          exact ⟨_, _, hd, rfl, congrArg some hvalue⟩
      | single | double => rcases hk with h | h <;> cases h
  | single x =>
      cases k with
      | single | double => rcases hk with h | h <;> cases h
      | _ => cases hw
  | double x =>
      cases k with
      | double => rcases hk with h | h <;> cases h
      | _ => cases hw
  | decimal d =>
      cases k with
      | decimal => exact ⟨_, _, rfl, rfl, rfl⟩
      | _ => cases hw

theorem cast_number_eq_ok_iff {w : Value} :
    cast (.number n) k = .ok w ↔ ∃ m, castNumber n k = .ok m ∧ w = .number m := by
  rw [cast]
  cases castNumber n k with
  | error f =>
      constructor
      · rintro ⟨⟩
      · rintro ⟨m, ⟨⟩, -⟩
  | ok m =>
      constructor
      · rintro ⟨⟩
        exact ⟨m, rfl, rfl⟩
      · rintro ⟨m, ⟨⟩, rfl⟩
        rfl

theorem castNumber_kind (h : castNumber n k = .ok m) : m.kind = k := by
  have hkind := castNumber_hasKind n k
  rw [h] at hkind
  cases hkind with
  | ok hkind => exact hkind

/-- A number of a kind that widens to another is cast to it, whatever number it is. -/
theorem exists_castNumber (hw : n.kind.widensTo k = true) (hne : n.kind ≠ k) :
    ∃ m, castNumber n k = .ok m := by
  cases k with
  | char =>
      cases n with
      | char => exact absurd rfl hne
      | _ => cases hw
  | word b =>
      cases n with
      | char | word => exact ⟨_, rfl⟩
      | _ => cases hw
  | single =>
      cases n with
      | char | word => exact ⟨_, rfl⟩
      | single => exact absurd rfl hne
      | _ => cases hw
  | double =>
      cases n with
      | char | word | single => exact ⟨_, rfl⟩
      | double => exact absurd rfl hne
      | _ => cases hw
  | decimal =>
      obtain ⟨m, -, hm, -⟩ := castNumber_exact (Or.inr rfl) hw fun _ _ => Or.inr ⟨nofun, nofun⟩
      exact ⟨m, hm⟩

/-! ### Widening -/

/-- A character beyond 16 bits does not keep its code in 16 bits. -/
theorem castNumber_char_ne {c : Char} (hc : 0xFFFF < c.toNat) (hk : k = .char ∨ k = .word .uint16)
    (hm : castNumber (.char c) k = .ok m) : m.toRat? ≠ (Number.char c).toRat? := by
  have hintegral : m.kind.integral = true := by
    rw [castNumber_kind hm]
    rcases hk with rfl | rfl <;> rfl
  obtain ⟨y, hy⟩ := Number.exists_integer? hintegral
  have hle := le_of_wrapInt hm hk hy
  rw [Number.toRat?_of_integer? hy, Number.toRat?_of_integer? rfl, Option.some_inj.ne,
    Int.cast_inj.ne]
  omega

/-- Whether a cast succeeds with a value of the kind that stands for the same number. -/
def KeepsNumber (v : Value) (k : NumericKind) : Prop :=
  ∃ w q, cast v k = .ok w ∧ w.conformsTo (.numeric k) = true ∧
    v.toRat? = some q ∧ w.toRat? = some q

theorem not_keepsNumber {c : Char} (hc : 0xFFFF < c.toNat) (hk : k = .char ∨ k = .word .uint16) :
    ¬KeepsNumber (.char c) k := by
  rintro ⟨w, q, hcast, -, hq, hwq⟩
  obtain ⟨m, hm, rfl⟩ := cast_number_eq_ok_iff.1 hcast
  exact castNumber_char_ne hc hk hm (hwq.trans hq.symm)

/-- A value that widens to a kind of exact numbers stands for the same number there, unless it is a
character beyond the 16 bits of the target; such a character does not. -/
theorem cast_exact_iff {j : NumericKind} {v : Value} (hk : k.integral = true ∨ k = .decimal)
    (hw : j.widensTo k = true) (hv : v.conformsTo (.numeric j) = true) :
    KeepsNumber v k ↔
      ¬∃ c, v = .char c ∧ 0xFFFF < c.toNat ∧ (k = .char ∨ k = .word .uint16) := by
  constructor
  · rintro hkeeps ⟨c, rfl, hlong, hk'⟩
    exact not_keepsNumber hlong hk' hkeeps
  · intro hshort
    cases v with
    | number n =>
        obtain rfl : n.kind = j := eq_of_beq hv
        have hn (c : Char) (hc : n = .char c) :
            c.toNat ≤ 0xFFFF ∨ k ≠ .char ∧ k ≠ .word .uint16 := by
          rw [← not_or, ← not_lt, ← not_and_or]
          rintro ⟨hlong, hk'⟩
          exact hshort ⟨c, congrArg Value.number hc, hlong, hk'⟩
        obtain ⟨m, q, hm, hq, hmq⟩ := castNumber_exact hk hw hn
        exact ⟨.number m, q, cast_number_eq_ok_iff.2 ⟨m, hm, rfl⟩,
          beq_iff_eq.2 (castNumber_kind hm), hq, hmq⟩
    | _ => cases hv

/-- The euro sign is the same number as a character, as an unsigned word and as a decimal. -/
theorem cast_exact_iff_euroSign :
    KeepsNumber (.char (Char.ofNat 0x20AC)) (.word .uint16) ∧
      KeepsNumber (.char (Char.ofNat 0x20AC)) .decimal := by
  refine ⟨(cast_exact_iff (j := .char) (Or.inl rfl) rfl rfl).2 ?_,
    (cast_exact_iff (j := .char) (Or.inr rfl) rfl rfl).2 ?_⟩
  · rintro ⟨c, hc, hlong, -⟩
    cases hc
    exact absurd hlong (by decide)
  · rintro ⟨c, -, -, h | h⟩ <;> cases h

/-- Characters widen to characters and to unsigned words of 16 bits, but one of 17 bits is another
character and another number there. -/
theorem cast_face_not_exact :
    (NumericKind.char.widensTo .char = true ∧ NumericKind.char.widensTo (.word .uint16) = true) ∧
      (Value.char (Char.ofNat 0x1F600)).conformsTo .char = true ∧
      (cast (.char (Char.ofNat 0x1F600)) .char = .ok (.char (Char.ofNat 0xF600)) ∧
        cast (.char (Char.ofNat 0x1F600)) (.word .uint16) =
          .ok (.number (.word .uint16 (.wrap .uint16 0xF600)))) ∧
      ¬KeepsNumber (.char (Char.ofNat 0x1F600)) .char ∧
      ¬KeepsNumber (.char (Char.ofNat 0x1F600)) (.word .uint16) :=
  ⟨⟨rfl, rfl⟩, rfl, ⟨rfl, rfl⟩, not_keepsNumber (by decide) (Or.inl rfl),
    not_keepsNumber (by decide) (Or.inr rfl)⟩

end Eval

end Elementwise
