import Elementwise.Proofs.Number.Shortest

/-!
Numbers with few digits keep them.  What is rounded to a number of a format lies in its interval; where
that is narrower than the distance of the decimal numbers with so many places, only one of these lies
there, and the search for the shortest digits ends with it.
-/

namespace Elementwise.Number

namespace Format

variable {f : Format} {s : Bool} {m : Nat} {e : Int} {q : ℚ}

/-! ### Rounding errors -/

theorem exists_isExponentOf (hp : 0 < f.precision) (hq : 0 < q) :
    ∃ (e : Int) (n : Nat), f.IsExponentOf q e ∧ IsNearestEven (q / 2 ^ e) n := by
  have hnum : 0 < q.num.toNat := by
    have := Rat.num_pos.2 hq
    omega
  have hvalue : (q.num.toNat : ℚ) / q.den = q := by
    have hcast : ((q.num.toNat : Int) : ℚ) = q.num := by
      rw [Int.toNat_of_nonneg (Rat.num_nonneg.2 hq.le)]
    rw [← Int.cast_natCast q.num.toNat, hcast, Rat.num_div_den]
  have hexponent := isExponentOf_chosenExponent hp hnum q.den_pos
  have hnearest := isNearestEven_mantissaAt q.num.toNat q.den_pos (f.chosenExponent q.num.toNat q.den)
  rw [hvalue] at hexponent hnearest
  exact ⟨_, _, hexponent, hnearest⟩

/-- A finite result is the nearest number of units. -/
theorem Rounds.value_eq {e' : Int} {n : Nat} (hp : 1 < f.precision) (hexp : 1 < f.exponentBits)
    (h : f.Rounds s q (.finite s m e)) (he : f.IsExponentOf q e') (hn : IsNearestEven (q / 2 ^ e') n) :
    (m : ℚ) * 2 ^ e = n * 2 ^ e' := by
  have hrange := minExponent_le_maxExponent hexp
  rcases (le_of_units he hn).lt_or_eq with hlt | heq
  · have hunique := h.unique (Nat.lt_of_succ_lt hp) (rounds_of_lt (Nat.lt_of_succ_lt hp) he hn hrange hlt)
    split at hunique <;> cases hunique
    rfl
  · have hunique := h.unique (Nat.lt_of_succ_lt hp) (rounds_of_eq hp he hn heq)
    split at hunique <;> cases hunique
    have hhalf : ((n / 2 : Nat) : ℚ) = 2 ^ (f.precision - 1) := by
      have hsucc := pow_precision (Nat.lt_of_succ_lt hp)
      have hhalf : n / 2 = Nat.pow 2 (f.precision - 1) := by omega
      exact_mod_cast hhalf
    have hfull : (n : ℚ) = 2 ^ f.precision := by exact_mod_cast heq
    rw [hhalf, two_zpow_pred (Nat.lt_of_succ_lt hp), hfull]

/-- A number of full precision is rounded by half a unit of its last place at most. -/
theorem Rounds.abs_sub_le (hp : 1 < f.precision) (hexp : 1 < f.exponentBits)
    (h : f.Rounds s q (.finite s m e)) (hq : 2 ^ (f.precision - 1) * 2 ^ f.minExponent ≤ q) :
    |q - m * 2 ^ e| ≤ q / 2 ^ f.precision := by
  have hpos : 0 < q := lt_of_lt_of_le (by positivity) hq
  obtain ⟨e', n, he, hn⟩ := exists_isExponentOf (Nat.lt_of_succ_lt hp) hpos
  have hunit : (0 : ℚ) < 2 ^ e' := by positivity
  have hfull : 2 ^ (f.precision - 1) * 2 ^ e' ≤ q := he.full.elim (fun hleast => hleast ▸ hq) id
  have hsucc : (2 : ℚ) ^ f.precision = 2 ^ (f.precision - 1) * 2 := by
    exact_mod_cast pow_precision (Nat.lt_of_succ_lt hp)
  rw [h.value_eq hp hexp he hn, le_div_iff₀ (by positivity), hsucc]
  have herror : |q - n * 2 ^ e'| = |q / 2 ^ e' - (n : Int)| * 2 ^ e' := by
    rw [← abs_of_pos hunit, ← abs_mul, abs_of_pos hunit, sub_mul, div_mul_cancel₀ q hunit.ne',
      Int.cast_natCast]
  calc |q - n * 2 ^ e'| * (2 ^ (f.precision - 1) * 2)
      ≤ 1 / 2 * 2 ^ e' * (2 ^ (f.precision - 1) * 2) := by
        rw [herror]
        exact mul_le_mul_of_nonneg_right (mul_le_mul_of_nonneg_right hn.1 hunit.le) (by positivity)
    _ = 2 ^ (f.precision - 1) * 2 ^ e' := by ring
    _ ≤ q := hfull

/-! ### Intervals of numbers that are rounded -/

/-- After a number comes the next one, or half a unit of it is what is rounded to infinity. -/
theorem Holds.next (hp : 0 < f.precision) (h : f.Holds m e) :
    f.IsValue (m * 2 ^ e + 2 ^ e) ∨ f.overflow = m * 2 ^ e + 2 ^ e / 2 := by
  have hlt := h.lt
  have hsucc := pow_precision hp
  rcases Nat.lt_or_ge (m + 1) (Nat.pow 2 f.precision) with hfits | hlast
  · have hholds : f.Holds (m + 1) e :=
      ⟨hfits, h.full.imp (fun hfull => hfull.trans (Nat.le_succ m)) id, h.minExponent_le,
        h.le_maxExponent⟩
    exact Or.inl ⟨m + 1, e, hholds, by push_cast; ring⟩
  have hcast : (m : ℚ) + 1 = 2 ^ f.precision := by
    have hlast' : m + 1 = Nat.pow 2 f.precision := by omega
    exact_mod_cast hlast'
  rcases h.le_maxExponent.lt_or_eq with hbelow | hmax
  · have hpow : 0 < Nat.pow 2 (f.precision - 1) := Nat.pow_pos two_pos
    have hholds : f.Holds (Nat.pow 2 (f.precision - 1)) (e + 1) :=
      ⟨by omega, Or.inl le_rfl, by have := h.minExponent_le; omega, by omega⟩
    refine Or.inl ⟨_, _, hholds, ?_⟩
    have hvalue : ((Nat.pow 2 (f.precision - 1) : Nat) : ℚ) * 2 ^ (e + 1) = (m + 1) * 2 ^ e := by
      rw [hcast, ← two_zpow_pred hp, Nat.pow_eq]
      push_cast
      rfl
    rw [hvalue]
    ring
  · refine Or.inr ?_
    rw [overflow, ← hmax, ← hcast]
    ring

/-- Before a positive number stands one at the distance of the gap. -/
theorem Holds.prev (hp : 0 < f.precision) (hm : 0 < m) (h : f.Holds m e) :
    f.IsValue (m * 2 ^ e - f.gapBelow m e) := by
  have hlt := h.lt
  have hmin := h.minExponent_le
  have hmax := h.le_maxExponent
  have hsucc := pow_precision hp
  rw [gapBelow]
  split
  · rename_i hnarrow
    have hholds : f.Holds (2 * m - 1) (e - 1) := ⟨by omega, Or.inl (by omega), by omega, by omega⟩
    refine ⟨_, _, hholds, ?_⟩
    rw [Nat.cast_sub (by omega), half_unit]
    push_cast
    ring
  · rename_i hwide
    have hfull : Nat.pow 2 (f.precision - 1) ≤ m - 1 ∨ e = f.minExponent := by
      rcases h.full with hfull | hleast
      · rcases hfull.lt_or_eq with hlt' | heq
        · exact Or.inl (by omega)
        · exact Or.inr (by by_contra hne; exact hwide ⟨heq.symm, by omega⟩)
      · exact Or.inr hleast
    have hholds : f.Holds (m - 1) e := ⟨by omega, hfull, hmin, hmax⟩
    refine ⟨_, _, hholds, ?_⟩
    rw [Nat.cast_sub hm]
    push_cast
    ring

/-- What is no further from one number than from another is not beyond the middle. -/
theorem le_middle {v w : ℚ} (hlt : v < w) (h : |q - v| ≤ |q - w|) : q ≤ (v + w) / 2 := by
  have hsq : (q - v) ^ 2 ≤ (q - w) ^ 2 := sq_le_sq.2 h
  nlinarith

theorem middle_le {v w : ℚ} (hlt : w < v) (h : |q - v| ≤ |q - w|) : (v + w) / 2 ≤ q := by
  have hsq : (q - v) ^ 2 ≤ (q - w) ^ 2 := sq_le_sq.2 h
  nlinarith

/-- What is rounded to a positive number lies in its interval. -/
theorem Rounds.inInterval (hp : 0 < f.precision) (hm : 0 < m) (h : f.Rounds s q (.finite s m e)) :
    f.InInterval m e q := by
  cases h with | finite hlt hholds hnearest => ?_
  have hunit : (0 : ℚ) < 2 ^ e := by positivity
  have hgap := (gapBelow_bounds f m e).1
  have hlow : m * 2 ^ e - f.gapBelow m e / 2 ≤ q ∧
      (m * 2 ^ e - f.gapBelow m e / 2 = q → Even m) := by
    obtain ⟨hle, htie⟩ := hnearest _ (hholds.prev hp hm)
    have hmiddle := middle_le (by linarith) hle
    refine ⟨by linarith, fun hq => (htie ?_).resolve_left (by linarith)⟩
    rw [abs_of_neg (by linarith), abs_of_pos (by linarith)]
    linarith
  have hhigh : q ≤ m * 2 ^ e + 2 ^ e / 2 ∧ (q = m * 2 ^ e + 2 ^ e / 2 → Even m) := by
    rcases hholds.next hp with hnext | hlast
    · obtain ⟨hle, htie⟩ := hnearest _ hnext
      have hmiddle := le_middle (by linarith) hle
      refine ⟨by linarith, fun hq => (htie ?_).resolve_left (by linarith)⟩
      rw [abs_of_pos (by linarith), abs_of_neg (by linarith)]
      linarith
    · rw [hlast] at hlt
      exact ⟨hlt.le, fun hq => absurd hq hlt.ne⟩
  rw [InInterval]
  split
  · exact ⟨hlow.1, hhigh.1⟩
  · rename_i hodd
    exact ⟨lt_of_le_of_ne hlow.1 fun hq => hodd (hlow.2 hq),
      lt_of_le_of_ne hhigh.1 fun hq => hodd (hhigh.2 hq)⟩

end Format

namespace RoundingInterval

open Format

variable {f : Format} {i : RoundingInterval} {tie : Tie} {c d m count : Nat} {e j k k' : Int}

/-! ### Grids wider than the interval -/

/-- The search does not pass a grid with a point in the interval. -/
theorem search_le (h : i.search tie count k = some (d, k')) (hj : j ≤ k)
    (hpoint : (i.gridPoint? tie j).isSome = true) : j ≤ k' := by
  induction count generalizing k with
  | zero => cases h
  | succ count ih =>
      rw [search] at h
      split at h
      · cases h
        exact hj
      · rename_i hnone
        refine ih h (Int.le_sub_one_of_lt (lt_of_le_of_ne hj ?_))
        rintro rfl
        rw [hnone] at hpoint
        cases hpoint

/-- Two points of one grid that lie in an interval narrower than the grid are the same. -/
theorem eq_of_inInterval (hunit : (2 : ℚ) ^ e < 10 ^ k) (hc : f.InInterval m e (c * 10 ^ k))
    (hd : f.InInterval m e (d * 10 ^ k)) : d = c := by
  have hgap := (gapBelow_bounds f m e).2
  have hbound {a b : Nat} (ha : f.InInterval m e (a * 10 ^ k)) (hb : f.InInterval m e (b * 10 ^ k)) :
      a < b + 1 := by
    have hlt : (a : ℚ) * 10 ^ k < (b + 1) * 10 ^ k := by linarith [ha.bounds.2, hb.bounds.1]
    exact_mod_cast lt_of_mul_lt_mul_right hlt (by positivity)
  have := hbound hc hd
  have := hbound hd hc
  omega

/-- The grid has a point in the interval, and the search finds it. -/
theorem isSome_gridPoint?_of_inInterval (tie : Tie) (hm : 0 < m) (hunit : (2 : ℚ) ^ e < 10 ^ k) (hne : c ≠ 0)
    (hc : f.InInterval m e (c * 10 ^ k)) : ((of f m e).gridPoint? tie k).isSome = true := by
  obtain ⟨hle, hlt⟩ := gridBelow_bounds f m e k
  have hgap := (gapBelow_bounds f m e).2
  have hten : (0 : ℚ) < 10 ^ k := by positivity
  generalize hbelow : (of f m e).gridBelow k = below at hle hlt
  have hfirst : below < c + 1 := by
    have hproduct : (below : ℚ) * 10 ^ k < (c + 1) * 10 ^ k := by linarith [hc.bounds.1]
    exact_mod_cast lt_of_mul_lt_mul_right hproduct hten.le
  have hsecond : c < below + 2 := by
    have hproduct : (c : ℚ) * 10 ^ k < (below + 2) * 10 ^ k := by linarith [hc.bounds.2]
    exact_mod_cast lt_of_mul_lt_mul_right hproduct hten.le
  refine isSome_gridPoint? (d := c) (by omega) hne ?_
  exact (contains_tenPower_iff hm).2 hc

/-- The search starts no lower than at the exponent of a number in the interval. -/
theorem le_decimalExponentBound {places : Nat} (hplaces : places ≤ 28) (hm : 0 < m)
    (hlow : (10 : ℚ) ^ (-places : Int) / 2 < m * 2 ^ e) :
    -places ≤ decimalExponentBound (of f m e).value (of f m e).den := by
  have hden := of_den_pos f m e
  have hvalue := of_value f m e
  have hpos := of_value_pos f hm e
  have hhigh := (value_bounds hpos hden).2
  rw [hvalue] at hhigh
  have hten : (10 : ℚ) ^ (places : Int) ≤ 2 ^ ((94 * places + 27) / 28 : Int) :=
    ten_zpow_le_two_zpow (by omega) (by omega)
  have hlog : -((94 * places + 27) / 28 : Int) < (of f m e).value.log2 - (of f m e).den.log2 + 1 + 1 := by
    rw [← zpow_lt_zpow_iff_right₀ (one_lt_two (α := ℚ)), zpow_neg, zpow_add_one₀ two_ne_zero]
    have hinv : ((2 : ℚ) ^ ((94 * places + 27) / 28 : Int))⁻¹ ≤ 10 ^ (-places : Int) := by
      rw [zpow_neg]
      exact inv_anti₀ (by positivity) hten
    linarith
  rw [decimalExponentBound]
  omega

end RoundingInterval

open Format RoundingInterval

/-- The shortest digits are those of the one number with so many places that is rounded to the number. -/
theorem exists_shortest_of_places {f : Format} (hf : f = .single ∨ f = .double) (tie : Tie) {s : Bool}
    {c m places : Nat} {e : Int} (hplaces : places ≤ 28) (hc : c ≠ 0) (hm : 0 < m)
    (h : f.Rounds s (c * 10 ^ (-places : Int)) (.finite s m e))
    (hunit : (2 : ℚ) ^ e < 10 ^ (-places : Int)) :
    ∃ (d : Nat) (k : Int), d ≠ 0 ∧ (d : ℚ) * 10 ^ k = c * 10 ^ (-places : Int) ∧
      shortest f tie m e = Scientific.ofScaled d k := by
  have hp : 0 < f.precision := by rcases hf with rfl | rfl <;> decide
  have hin := h.inInterval hp hm
  have hten : (0 : ℚ) < 10 ^ (-places : Int) := by positivity
  have hlow : (10 : ℚ) ^ (-places : Int) / 2 < m * 2 ^ e := by
    have hone : (1 : ℚ) ≤ c := by exact_mod_cast Nat.pos_of_ne_zero hc
    have hproduct := mul_le_mul_of_nonneg_right hone hten.le
    linarith [hin.bounds.2]
  have hpoint := isSome_gridPoint?_of_inInterval tie hm hunit hc hin
  have hholds : f.Holds m e := by
    cases h
    assumption
  obtain ⟨d, k, hsearch, hd, hin'⟩ := exists_search hf tie hholds hm
  have hk := search_le hsearch (le_decimalExponentBound hplaces hm hlow) hpoint
  have hsplit : (d : ℚ) * 10 ^ k = (d * 10 ^ (k + places).toNat : Nat) * 10 ^ (-places : Int) := by
    have hexponent : k = (k + places).toNat + -places := by omega
    conv_lhs => rw [hexponent, zpow_add₀ (by norm_num), zpow_natCast]
    push_cast
    ring
  rw [hsplit] at hin'
  refine ⟨d, k, hd, ?_, shortest_of_search hsearch⟩
  rw [hsplit, eq_of_inInterval hunit hin hin']

end Elementwise.Number
