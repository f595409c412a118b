import Elementwise.Number.Shortest
import Elementwise.Proofs.Number.Nearest
import Mathlib.Algebra.Order.Floor.Semifield
import Mathlib.Data.Nat.Cast.Order.Field

/-!
Shortest digits are digits of the number.  A decimal number no further from a number of a format than
half the way to its neighbours is rounded to it and to no other.  The search tries grids that get finer,
and the last of them is so fine that the point below the number is as near as that.
-/

namespace Elementwise.Number

namespace Format

variable {f : Format} {s : Bool} {m m' : Nat} {e e' : Int} {q v : ℚ}

/-! ### Neighbours -/

theorem Holds.isValue (h : f.Holds m e) : f.IsValue (m * 2 ^ e) :=
  ⟨m, e, h, rfl⟩

theorem Holds.isExponentOf (h : f.Holds m e) : f.IsExponentOf (m * 2 ^ e) e where
  minExponent_le := h.minExponent_le
  lt := mul_lt_mul_of_pos_right (by exact_mod_cast h.lt) (by positivity)
  full := h.full.symm.imp id fun hfull =>
    mul_le_mul_of_nonneg_right (by exact_mod_cast hfull) (by positivity)

/-- A number has one mantissa and one exponent. -/
theorem Holds.unique (hp : 0 < f.precision) (h : f.Holds m e) (h' : f.Holds m' e')
    (heq : (m : ℚ) * 2 ^ e = m' * 2 ^ e') : m = m' ∧ e = e' := by
  have hzero (k : Nat) (x : Int) : (k : ℚ) * 2 ^ x = 0 ↔ k = 0 := by
    rw [mul_eq_zero_iff_right (by positivity), Nat.cast_eq_zero]
  rcases Nat.eq_zero_or_pos m with rfl | hm
  · obtain rfl := (hzero m' e').1 (heq ▸ (hzero 0 e).2 rfl)
    exact ⟨rfl, h.eq_minExponent.trans h'.eq_minExponent.symm⟩
  · have hm' : 0 < m' := by
      rw [Nat.pos_iff_ne_zero, Ne, ← hzero m' e', ← heq, hzero]
      exact hm.ne'
    have hround := nearest_of_value (s := false) hp h hm (fraction_pos m e) (fraction_value m e)
    rw [nearest_of_value hp h' hm' (fraction_pos m e) ((fraction_value m e).trans heq)] at hround
    cases hround
    exact ⟨rfl, rfl⟩

/-- The next number is a unit further at least. -/
theorem Holds.succ_le (hp : 0 < f.precision) (h : f.Holds m e) (hv : f.IsValue v)
    (hlt : m * 2 ^ e < v) : (m + 1) * 2 ^ e ≤ v := by
  have hunit : (0 : ℚ) < 2 ^ e := by positivity
  rcases hv.grid hp h.isExponentOf with ⟨k, rfl⟩ | ⟨hbelow, hfull⟩
  · have hk : (m : Int) < k := by exact_mod_cast lt_of_mul_lt_mul_right hlt hunit.le
    exact mul_le_mul_of_nonneg_right (by exact_mod_cast Int.add_one_le_of_lt hk) hunit.le
  · exact absurd (hlt.trans hbelow) (not_lt.2 hfull)

theorem even_pow_precision (hp : 0 < f.precision) : Even (Nat.pow 2 f.precision) :=
  (Nat.even_pow' hp.ne').2 even_two

/-- An even mantissa is not the last. -/
theorem Holds.succ (hp : 0 < f.precision) (h : f.Holds m e) (heven : Even m) : f.Holds (m + 1) e where
  lt := by
    refine lt_of_le_of_ne h.lt fun heq => ?_
    have hodd := even_pow_precision hp
    rw [← heq, Nat.even_add_one] at hodd
    exact hodd heven
  full := h.full.imp (fun hfull => hfull.trans (Nat.le_succ m)) id
  minExponent_le := h.minExponent_le
  le_maxExponent := h.le_maxExponent

theorem Rounds.value_le (hp : 0 < f.precision) (h : f.Rounds s q (.finite s m e))
    (h' : f.Rounds s q (.finite s m' e')) : (m' : ℚ) * 2 ^ e' ≤ m * 2 ^ e := by
  refine not_lt.1 fun hlt => ?_
  cases h with | finite _ hholds hnearest => ?_
  cases h' with | finite _ hholds' hnearest' => ?_
  obtain ⟨hle, htie⟩ := hnearest _ hholds'.isValue
  obtain ⟨hle', htie'⟩ := hnearest' _ hholds.isValue
  have hsame := le_antisymm hle hle'
  have heven : Even m := (htie hsame).resolve_left hlt.ne'
  have heven' : Even m' := (htie' hsame.symm).resolve_left hlt.ne
  -- the number after the first one is the other or between them, and its mantissa is odd
  have hnext := hholds.succ hp heven
  have hnext_le := hholds.succ_le hp hholds'.isValue hlt
  rcases hnext_le.lt_or_eq with hbetween | heq
  · have hnearer := (hnearest _ hnext.isValue).1
    have hunit : (0 : ℚ) < 2 ^ e := by positivity
    have hmiddle : q - m * 2 ^ e = m' * 2 ^ e' - q := by
      rcases abs_eq_abs.1 hsame with hsub | hsub <;> linarith
    rw [abs_of_pos (by linarith), Nat.cast_succ] at hnearer
    rcases le_abs'.1 hnearer with hsub | hsub <;> linarith
  · rw [← Nat.cast_succ] at heq
    rw [← (hnext.unique hp hholds' heq).1, Nat.even_add_one] at heven'
    exact heven' heven

/-- A quotient is rounded to one number only. -/
theorem Rounds.unique {b b' : Binary} (hp : 0 < f.precision) (h : f.Rounds s q b)
    (h' : f.Rounds s q b') : b = b' := by
  cases h with
  | infinite hle =>
      cases h' with
      | infinite => rfl
      | finite hlt => exact absurd hle (not_le.2 hlt)
  | @finite m e hlt hholds hnearest =>
      cases h' with
      | infinite hle => exact absurd hle (not_le.2 hlt)
      | @finite m' e' hlt' hholds' hnearest' =>
          have h : f.Rounds s q (.finite s m e) := .finite hlt hholds hnearest
          have h' : f.Rounds s q (.finite s m' e') := .finite hlt' hholds' hnearest'
          have heq := le_antisymm (h'.value_le hp h) (h.value_le hp h')
          obtain ⟨rfl, rfl⟩ := hholds.unique hp hholds' heq
          rfl

/-- The distance to the number before, which is half a unit where the exponent changes. -/
def gapBelow (f : Format) (m : Nat) (e : Int) : ℚ :=
  if m = Nat.pow 2 (f.precision - 1) ∧ f.minExponent < e then 2 ^ (e - 1) else 2 ^ e

theorem half_unit (e : Int) : (2 : ℚ) ^ (e - 1) = 2 ^ e / 2 := by
  rw [zpow_sub_one₀ two_ne_zero, div_eq_mul_inv]

theorem gapBelow_bounds (f : Format) (m : Nat) (e : Int) :
    2 ^ e / 2 ≤ f.gapBelow m e ∧ f.gapBelow m e ≤ 2 ^ e := by
  have hunit : (0 : ℚ) < 2 ^ e := by positivity
  rw [gapBelow, half_unit]
  split <;> constructor <;> linarith

/-- The number before is that far away at least. -/
theorem Holds.add_gapBelow_le (hp : 0 < f.precision) (h : f.Holds m e) (hv : f.IsValue v)
    (hlt : v < m * 2 ^ e) : v + f.gapBelow m e ≤ m * 2 ^ e := by
  obtain ⟨m', e', hholds, rfl⟩ := hv
  have hunit : (0 : ℚ) < 2 ^ e := by positivity
  rcases le_or_gt e e' with hle | hlt'
  · have hstep := hholds.succ_le hp h.isValue hlt
    have hpow : (2 : ℚ) ^ e ≤ 2 ^ e' := zpow_le_zpow_right₀ one_le_two hle
    linarith [(gapBelow_bounds f m e).2]
  · -- the number before has a smaller exponent, so it is the last of that exponent at most
    have hmin := hholds.minExponent_le
    have hfull := h.full.resolve_right (by omega)
    have hlast : (m' : ℚ) + 1 ≤ 2 ^ f.precision := by exact_mod_cast hholds.lt
    have hpow : (2 : ℚ) ^ e' ≤ 2 ^ (e - 1) := zpow_le_zpow_right₀ one_le_two (by omega)
    have hbelow : (m' : ℚ) * 2 ^ e' ≤ (2 ^ f.precision - 1) * 2 ^ (e - 1) :=
      mul_le_mul (by linarith) hpow (by positivity) (by linarith [Nat.cast_nonneg (α := ℚ) m'])
    have hsplit := two_zpow_pred hp (e - 1)
    rw [sub_add_cancel] at hsplit
    rw [gapBelow]
    split
    · rename_i hnarrow
      have hm : (m : ℚ) = 2 ^ (f.precision - 1) := by exact_mod_cast hnarrow.1
      rw [hm, hsplit]
      linarith
    · rename_i hwide
      have hsucc : Nat.pow 2 (f.precision - 1) + 1 ≤ m :=
        Nat.lt_of_le_of_ne hfull fun heq => hwide ⟨heq.symm, by omega⟩
      have hm : (2 : ℚ) ^ (f.precision - 1) + 1 ≤ m := by exact_mod_cast hsucc
      have hproduct := mul_le_mul_of_nonneg_right hm hunit.le
      have hhalf : (0 : ℚ) < 2 ^ (e - 1) := by positivity
      linarith

/-! ### Intervals -/

/-- A number is no further than half the way to the neighbours, and nearer than that if the mantissa is
odd. -/
def InInterval (f : Format) (m : Nat) (e : Int) (q : ℚ) : Prop :=
  if Even m then m * 2 ^ e - f.gapBelow m e / 2 ≤ q ∧ q ≤ m * 2 ^ e + 2 ^ e / 2
  else m * 2 ^ e - f.gapBelow m e / 2 < q ∧ q < m * 2 ^ e + 2 ^ e / 2

theorem inInterval_of_lt (hlow : m * 2 ^ e - f.gapBelow m e / 2 < q)
    (hhigh : q < m * 2 ^ e + 2 ^ e / 2) : f.InInterval m e q := by
  rw [InInterval]
  split
  · exact ⟨hlow.le, hhigh.le⟩
  · exact ⟨hlow, hhigh⟩

theorem inInterval_self (f : Format) (m : Nat) (e : Int) : f.InInterval m e (m * 2 ^ e) := by
  have hunit : (0 : ℚ) < 2 ^ e := by positivity
  have hgap := (gapBelow_bounds f m e).1
  exact inInterval_of_lt (by linarith) (by linarith)

theorem InInterval.bounds (h : f.InInterval m e q) :
    m * 2 ^ e - f.gapBelow m e / 2 ≤ q ∧ q ≤ m * 2 ^ e + 2 ^ e / 2 := by
  rw [InInterval] at h
  split at h
  · exact h
  · exact ⟨h.1.le, h.2.le⟩

theorem InInterval.even_of_eq (h : f.InInterval m e q)
    (hend : m * 2 ^ e - f.gapBelow m e / 2 = q ∨ q = m * 2 ^ e + 2 ^ e / 2) : Even m := by
  rw [InInterval] at h
  split at h
  · assumption
  · exact (hend.elim h.1.ne h.2.ne).elim

theorem InInterval.pos (hm : 0 < m) (h : f.InInterval m e q) : (2 : ℚ) ^ e / 2 ≤ q := by
  have hone : (1 : ℚ) ≤ m := by exact_mod_cast hm
  have hvalue : (2 : ℚ) ^ e ≤ m * 2 ^ e := le_mul_of_one_le_left (by positivity) hone
  linarith [h.bounds.1, (gapBelow_bounds f m e).2]

theorem InInterval.lt_overflow (hp : 0 < f.precision) (hholds : f.Holds m e)
    (h : f.InInterval m e q) : q < f.overflow := by
  have hunit : (0 : ℚ) < 2 ^ e := by positivity
  have hmax : (2 ^ f.precision - 1 / 2) * 2 ^ e ≤ f.overflow :=
    mul_le_mul_of_nonneg_left (zpow_le_zpow_right₀ one_le_two hholds.le_maxExponent)
      f.half_unit_nonneg
  by_cases heven : Even m
  · have hm : (m : ℚ) + 1 + 1 ≤ 2 ^ f.precision := by exact_mod_cast (hholds.succ hp heven).lt
    have hproduct := mul_le_mul_of_nonneg_right hm hunit.le
    linarith [h.bounds.2]
  · have hm : (m : ℚ) + 1 ≤ 2 ^ f.precision := by exact_mod_cast hholds.lt
    have hproduct := mul_le_mul_of_nonneg_right hm hunit.le
    have hlt := lt_of_le_of_ne h.bounds.2 fun hend => heven (h.even_of_eq (Or.inr hend))
    linarith

/-- A number in the interval is rounded to the number whose interval it is. -/
theorem InInterval.rounds (hp : 0 < f.precision) (hholds : f.Holds m e) (h : f.InInterval m e q) :
    f.Rounds s q (.finite s m e) := by
  obtain ⟨hlow, hhigh⟩ := h.bounds
  have hgap := gapBelow_bounds f m e
  have hunit : (0 : ℚ) < 2 ^ e := by positivity
  refine .finite (h.lt_overflow hp hholds) hholds fun v hv => ?_
  rcases lt_trichotomy v (m * 2 ^ e) with hlt | rfl | hlt
  · have hstep := hholds.add_gapBelow_le hp hv hlt
    rw [abs_of_nonneg (by linarith : 0 ≤ q - v)]
    refine ⟨abs_le.2 ⟨by linarith, by linarith⟩, fun htie => Or.inr (h.even_of_eq (Or.inl ?_))⟩
    rcases eq_or_eq_neg_of_abs_eq htie with hsub | hsub <;> linarith
  · exact ⟨le_rfl, fun _ => Or.inl rfl⟩
  · have hstep := hholds.succ_le hp hv hlt
    rw [abs_sub_comm q v, abs_of_nonneg (by linarith : 0 ≤ v - q)]
    refine ⟨abs_le.2 ⟨by linarith, by linarith⟩, fun htie => Or.inr (h.even_of_eq (Or.inr ?_))⟩
    rcases eq_or_eq_neg_of_abs_eq htie with hsub | hsub <;> linarith

end Format

/-! ### The search -/

namespace RoundingInterval

open Format

variable {f : Format} {i : RoundingInterval} {tie : Tie} {m num den count : Nat} {e k : Int}

theorem of_den_pos (f : Format) (m : Nat) (e : Int) : 0 < (of f m e).den :=
  fraction_pos 1 (e - 2)

/-- A quarter of a unit, in which the ends of an interval are counted. -/
theorem quarter_unit (e : Int) :
    ((Binary.fraction 1 (e - 2)).1 : ℚ) / (Binary.fraction 1 (e - 2)).2 = 2 ^ e / 4 := by
  rw [fraction_value, zpow_sub₀ two_ne_zero, Nat.cast_one, one_mul]
  norm_num

theorem of_value (f : Format) (m : Nat) (e : Int) :
    ((of f m e).value : ℚ) / (of f m e).den = m * 2 ^ e := by
  have hvalue : (of f m e).value = 4 * m * (Binary.fraction 1 (e - 2)).1 := rfl
  have hden : (of f m e).den = (Binary.fraction 1 (e - 2)).2 := rfl
  rw [hvalue, hden, Nat.cast_mul, mul_div_assoc, quarter_unit]
  push_cast
  ring

theorem of_value_pos (f : Format) (hm : 0 < m) (e : Int) : 0 < (of f m e).value := by
  have hscaled : (0 : ℚ) < m * 2 ^ e := by positivity
  rw [← of_value f] at hscaled
  exact Nat.pos_of_ne_zero fun hzero => by simp [hzero] at hscaled

theorem of_high (f : Format) (m : Nat) (e : Int) :
    ((of f m e).high : ℚ) / (of f m e).den = m * 2 ^ e + 2 ^ e / 2 := by
  have hhigh : (of f m e).high = (4 * m + 2) * (Binary.fraction 1 (e - 2)).1 := rfl
  have hden : (of f m e).den = (Binary.fraction 1 (e - 2)).2 := rfl
  rw [hhigh, hden, Nat.cast_mul, mul_div_assoc, quarter_unit]
  push_cast
  ring

theorem of_low (f : Format) (hm : 0 < m) (e : Int) :
    ((of f m e).low : ℚ) / (of f m e).den = m * 2 ^ e - f.gapBelow m e / 2 := by
  have hlow : (of f m e).low =
      (4 * m - if (m == Nat.pow 2 (f.precision - 1) && f.minExponent < e) = true then 1 else 2) *
        (Binary.fraction 1 (e - 2)).1 := rfl
  have hden : (of f m e).den = (Binary.fraction 1 (e - 2)).2 := rfl
  rw [hlow, hden, Nat.cast_mul, mul_div_assoc, quarter_unit, gapBelow, half_unit]
  by_cases hnarrow : m = Nat.pow 2 (f.precision - 1) ∧ f.minExponent < e
  · rw [if_pos (by simpa using hnarrow), if_pos hnarrow, Nat.cast_sub (by omega)]
    push_cast
    ring
  · rw [if_neg (by simpa using hnarrow), if_neg hnarrow, Nat.cast_sub (by omega)]
    push_cast
    ring

theorem contains_of_iff (hm : 0 < m) (hden : 0 < den) :
    (of f m e).contains num den = true ↔ f.InInterval m e (num / den) := by
  have hden' : (0 : ℚ) < den := by exact_mod_cast hden
  have hunits : (0 : ℚ) < (of f m e).den := by exact_mod_cast of_den_pos f m e
  have hclosed : (of f m e).closed = decide (Even m) := by
    rw [decide_eq_decide.2 Nat.even_iff]
    rfl
  rw [contains, hclosed, InInterval, ← of_low f hm, ← of_high]
  by_cases heven : Even m
  · rw [decide_eq_true heven, if_pos rfl, if_pos heven, div_le_div_iff₀ hunits hden',
      div_le_div_iff₀ hden' hunits, Bool.and_eq_true, decide_eq_true_iff, decide_eq_true_iff]
    exact_mod_cast Iff.rfl
  · rw [decide_eq_false heven, if_neg Bool.false_ne_true, if_neg heven, div_lt_div_iff₀ hunits hden',
      div_lt_div_iff₀ hden' hunits, Bool.and_eq_true, decide_eq_true_iff, decide_eq_true_iff]
    exact_mod_cast Iff.rfl

/-- A power of ten as a quotient. -/
def tenPower : Int → Nat × Nat
  | .ofNat k => (Nat.pow 10 k, 1)
  | .negSucc k => (1, Nat.pow 10 (k + 1))

theorem tenPower_pos (k : Int) : 0 < (tenPower k).1 ∧ 0 < (tenPower k).2 := by
  cases k with
  | ofNat k => exact ⟨Nat.pow_pos (by decide), Nat.one_pos⟩
  | negSucc k => exact ⟨Nat.one_pos, Nat.pow_pos (by decide)⟩

theorem tenPower_value (k : Int) : ((tenPower k).1 : ℚ) / (tenPower k).2 = 10 ^ k := by
  cases k with
  | ofNat k =>
      rw [tenPower, Nat.cast_one, div_one, Nat.pow_eq, Nat.cast_pow]
      rfl
  | negSucc k =>
      rw [tenPower, Nat.cast_one, one_div, Nat.pow_eq, Nat.cast_pow, zpow_negSucc]
      rfl

theorem contains_tenPower_iff (hm : 0 < m) {d : Nat} :
    (of f m e).contains (d * (tenPower k).1) (tenPower k).2 = true ↔ f.InInterval m e (d * 10 ^ k) := by
  rw [contains_of_iff hm (tenPower_pos k).2, Nat.cast_mul, mul_div_assoc, tenPower_value]

/-- The point of the grid below the number. -/
def gridBelow (i : RoundingInterval) (k : Int) : Nat :=
  i.value * (tenPower k).2 / (i.den * (tenPower k).1)

/-- The point of the grid below the number, and the next one. -/
theorem gridBelow_bounds (f : Format) (m : Nat) (e k : Int) :
    (of f m e).gridBelow k * 10 ^ k ≤ (m : ℚ) * 2 ^ e ∧
      (m : ℚ) * 2 ^ e < ((of f m e).gridBelow k + 1) * 10 ^ k := by
  have hten : (0 : ℚ) < 10 ^ k := by positivity
  have hquotient : (((of f m e).value * (tenPower k).2 : Nat) : ℚ) /
      ((of f m e).den * (tenPower k).1 : Nat) = m * 2 ^ e / 10 ^ k := by
    rw [← of_value f, ← tenPower_value k]
    push_cast
    rw [div_div_div_eq]
  rw [← le_div_iff₀ hten, ← div_lt_iff₀ hten, ← hquotient, gridBelow]
  refine ⟨Nat.cast_div_le, ?_⟩
  rw [← Nat.floor_div_eq_div (K := ℚ)]
  exact Nat.lt_floor_add_one _

/-- The two points beside the number are tried. -/
theorem gridPoint?_eq (i : RoundingInterval) (tie : Tie) (k : Int) : ∃ first second,
    ((first = i.gridBelow k ∧ second = i.gridBelow k + 1) ∨
      (first = i.gridBelow k + 1 ∧ second = i.gridBelow k)) ∧ i.gridPoint? tie k =
      if first != 0 && i.contains (first * (tenPower k).1) (tenPower k).2 then some first
      else if second != 0 && i.contains (second * (tenPower k).1) (tenPower k).2 then some second
      else none := by
  have hor (nearBelow : Bool) (below : Nat) :
      ((if nearBelow then below else below + 1) = below ∧
        (if nearBelow then below + 1 else below) = below + 1) ∨
      ((if nearBelow then below else below + 1) = below + 1 ∧
        (if nearBelow then below + 1 else below) = below) := by
    cases nearBelow
    · exact Or.inr ⟨rfl, rfl⟩
    · exact Or.inl ⟨rfl, rfl⟩
  cases k <;> exact ⟨_, _, hor _ _, rfl⟩

theorem gridPoint?_spec {d : Nat} (h : i.gridPoint? tie k = some d) :
    d ≠ 0 ∧ i.contains (d * (tenPower k).1) (tenPower k).2 = true := by
  obtain ⟨first, second, -, heq⟩ := gridPoint?_eq i tie k
  rw [heq] at h
  split at h
  · rename_i hfirst
    cases h
    rwa [Bool.and_eq_true, bne_iff_ne] at hfirst
  · split at h
    · rename_i hsecond
      cases h
      rwa [Bool.and_eq_true, bne_iff_ne] at hsecond
    · cases h

/-- A point beside the number is found unless the other is. -/
theorem isSome_gridPoint? {d : Nat} (hd : d = i.gridBelow k ∨ d = i.gridBelow k + 1) (hne : d ≠ 0)
    (hcontains : i.contains (d * (tenPower k).1) (tenPower k).2 = true) :
    (i.gridPoint? tie k).isSome = true := by
  have hgood : (d != 0 && i.contains (d * (tenPower k).1) (tenPower k).2) = true := by
    rw [hcontains, Bool.and_true, bne_iff_ne]
    exact hne
  obtain ⟨first, second, hor, heq⟩ := gridPoint?_eq i tie k
  have hone : d = first ∨ d = second := by omega
  rw [heq]
  rcases hone with rfl | rfl
  · rw [if_pos hgood]
    rfl
  · split <;> rfl

theorem search_spec {d : Nat} {k' : Int} (h : i.search tie count k = some (d, k')) :
    i.gridPoint? tie k' = some d := by
  induction count generalizing k with
  | zero => cases h
  | succ count ih =>
      rw [search] at h
      split at h
      · rename_i hpoint
        cases h
        exact hpoint
      · exact ih h

/-- The search ends if one of its grids has a point in the interval. -/
theorem isSome_search {j : Nat} (hj : j < count) (h : (i.gridPoint? tie (k - j)).isSome = true) :
    (i.search tie count k).isSome = true := by
  induction count generalizing j k with
  | zero => exact absurd hj (Nat.not_lt_zero j)
  | succ count ih =>
      rw [search]
      cases hpoint : i.gridPoint? tie k with
      | some d => rfl
      | none =>
          cases j with
          | zero =>
              rw [Nat.cast_zero, sub_zero, hpoint] at h
              cases h
          | succ j =>
              refine ih (Nat.lt_of_succ_lt_succ hj) ?_
              rw [Nat.cast_succ, ← sub_sub, sub_right_comm] at h
              exact h

/-- A grid finer than a quarter of a unit has a point in the interval. -/
theorem isSome_gridPoint?_of_lt (f : Format) (tie : Tie) (hm : 0 < m) (hk : (10 : ℚ) ^ k < 2 ^ e / 4) :
    ((of f m e).gridPoint? tie k).isSome = true := by
  have hunit : (2 : ℚ) ^ e ≤ m * 2 ^ e :=
    le_mul_of_one_le_left (by positivity) (by exact_mod_cast hm)
  have hgap := (gapBelow_bounds f m e).1
  have hfour : (0 : ℚ) < 2 ^ e := by positivity
  obtain ⟨hle, hlt⟩ := gridBelow_bounds f m e k
  generalize hbelow : (of f m e).gridBelow k = below at hle hlt
  refine isSome_gridPoint? (Or.inl hbelow.symm) ?_ ?_
  · rintro rfl
    rw [Nat.cast_zero, zero_add, one_mul] at hlt
    linarith
  · rw [contains_tenPower_iff hm]
    exact inInterval_of_lt (by linarith) (by linarith)

end RoundingInterval

/-! ### Shortest digits -/

open Format RoundingInterval

variable {f : Format} {tie : Tie} {m : Nat} {e k n : Int}

/-- Powers of ten and of two compare as the 28th power of ten and the powers of two beside it do. -/
theorem ten_zpow_le_two_zpow (hpos : 94 * k ≤ 28 * n) (hneg : 93 * k ≤ 28 * n) :
    (10 : ℚ) ^ k ≤ 2 ^ n := by
  have hpower : ((10 : ℚ) ^ k) ^ 28 ≤ (2 ^ n) ^ 28 := by
    have hten : ((10 : ℚ) ^ k) ^ 28 = (10 ^ 28) ^ k := by
      rw [← zpow_natCast, ← zpow_natCast, zpow_comm]
    have htwo : ((2 : ℚ) ^ n) ^ 28 = 2 ^ (28 * n) := by
      rw [← zpow_natCast, ← zpow_mul, mul_comm]
      rfl
    rw [hten, htwo]
    rcases le_total 0 k with hk | hk
    · calc ((10 : ℚ) ^ 28) ^ k ≤ (2 ^ (94 : Int)) ^ k :=
            zpow_le_zpow_left₀ hk (by norm_num) (by norm_num)
        _ = 2 ^ (94 * k) := (zpow_mul _ _ _).symm
        _ ≤ 2 ^ (28 * n) := zpow_le_zpow_right₀ one_le_two hpos
    · obtain ⟨j, rfl⟩ := Int.exists_eq_neg_ofNat hk
      calc ((10 : ℚ) ^ 28) ^ (-(j : Int)) = (((10 : ℚ) ^ 28) ^ j)⁻¹ := by
            rw [zpow_neg, zpow_natCast]
        _ ≤ ((2 ^ 93) ^ j)⁻¹ :=
            inv_anti₀ (by positivity) (pow_le_pow_left₀ (by norm_num) (by norm_num) j)
        _ = 2 ^ (93 * -(j : Int)) := by
            rw [zpow_mul, zpow_neg, zpow_natCast]
            rfl
        _ ≤ 2 ^ (28 * n) := zpow_le_zpow_right₀ one_le_two hneg
  exact le_of_pow_le_pow_left₀ (by decide) (by positivity) hpower

/-- The bound where the search starts is too large by less than its number of steps. -/
theorem ten_zpow_lt_unit (hf : f = .single ∨ f = .double) (h : f.Holds m e) (hm : 0 < m) :
    (10 : ℚ) ^ (decimalExponentBound (of f m e).value (of f m e).den - (23 : Nat)) < 2 ^ e / 4 := by
  have hden := of_den_pos f m e
  have hvalue := of_value f m e
  have hpos := of_value_pos f hm e
  have hrange : f.precision ≤ 53 ∧ -1074 ≤ f.minExponent ∧ f.maxExponent ≤ 971 := by
    rcases hf with rfl | rfl <;> decide
  have hmin := h.minExponent_le
  have hmax := h.le_maxExponent
  -- the number is below the power of two that follows the mantissas
  have hlog : ((of f m e).value.log2 : Int) - (of f m e).den.log2 - 1 < f.precision + e := by
    have hlt := (value_bounds hpos hden).1.trans_eq hvalue
    rw [← zpow_lt_zpow_iff_right₀ (one_lt_two (α := ℚ)), zpow_add₀ two_ne_zero, zpow_natCast]
    exact hlt.trans h.isExponentOf.lt
  have hquarter : (2 : ℚ) ^ e / 4 = 2 ^ (e - 3) * 2 := by
    rw [zpow_sub₀ two_ne_zero]
    norm_num
    ring
  have hunit : (0 : ℚ) < 2 ^ (e - 3) := by positivity
  have hle : (10 : ℚ) ^ (decimalExponentBound (of f m e).value (of f m e).den - (23 : Nat)) ≤
      2 ^ (e - 3) := by
    rw [decimalExponentBound]
    exact ten_zpow_le_two_zpow (by omega) (by omega)
  rw [hquarter]
  linarith

theorem shortest_of_search {d : Nat} (h : (of f m e).search tie 24
    (decimalExponentBound (of f m e).value (of f m e).den) = some (d, k)) :
    shortest f tie m e = Scientific.ofScaled d k := by
  unfold shortest
  dsimp only
  rw [h]

/-- The search ends with a number in the interval. -/
theorem exists_search (hf : f = .single ∨ f = .double) (tie : Tie) (h : f.Holds m e) (hm : 0 < m) :
    ∃ (d : Nat) (k : Int),
      (of f m e).search tie 24 (decimalExponentBound (of f m e).value (of f m e).den) = some (d, k) ∧
        d ≠ 0 ∧ f.InInterval m e (d * 10 ^ k) := by
  have hlast := isSome_gridPoint?_of_lt f tie hm (ten_zpow_lt_unit hf h hm)
  have hfound := isSome_search (by decide : 23 < 24) hlast
  obtain ⟨⟨d, k⟩, hsearch⟩ := Option.isSome_iff_exists.1 hfound
  obtain ⟨hd, hcontains⟩ := gridPoint?_spec (search_spec hsearch)
  exact ⟨d, k, hsearch, hd, (contains_tenPower_iff hm).1 hcontains⟩

/-- The shortest digits are those of a number in the interval. -/
theorem exists_shortest (hf : f = .single ∨ f = .double) (tie : Tie) (h : f.Holds m e)
    (hm : 0 < m) : ∃ (d : Nat) (k : Int), d ≠ 0 ∧ f.InInterval m e (d * 10 ^ k) ∧
      shortest f tie m e = Scientific.ofScaled d k := by
  obtain ⟨d, k, hsearch, hd, hin⟩ := exists_search hf tie h hm
  exact ⟨d, k, hd, hin, shortest_of_search hsearch⟩

end Elementwise.Number
