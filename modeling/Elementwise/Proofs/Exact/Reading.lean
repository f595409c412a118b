import Elementwise.Proofs.Number.Layout
import Elementwise.Proofs.Exact.Number

/-!
Decimals read from text.  Digits with a point among them are collected into a coefficient while there is
room, and a negative exponent adds to the scale; so the JSON form of a number with a few digits and places
is read as the decimal with these digits.
-/

namespace Elementwise

open Number Text
open Token (IsDigits IsFraction)

namespace Decimal

/-! ### Plain notation -/

namespace Reading

variable {negative : Bool} {r : Reading} {ds rest : List Char}

theorem ofDigits_cons (c : Char) (ds : List Char) :
    ofDigits (c :: ds) = (c.toNat - 48) * 10 ^ ds.length + ofDigits ds := by
  have hfirst : ofDigits [c] = c.toNat - 48 := by
    show 10 * 0 + (c.toNat - 48) = _
    omega
  rw [← List.singleton_append, ofDigits_append, hfirst]

/-- Digits are collected if the coefficient and the scale have room for all of them. -/
theorem run_append (hds : ∀ c ∈ ds, isAsciiDigit c = true)
    (hroom : r.coefficient * 10 ^ ds.length + ofDigits ds < coefficientBound)
    (hplaces : r.scale + ds.length ≤ maxScale ∨ r.pointSeen = false)
    (hwhole : r.pointSeen = true ∨ r.scale = 0) :
    r.run negative (ds ++ rest) = run negative
      { r with
        coefficient := r.coefficient * 10 ^ ds.length + ofDigits ds
        scale := if r.pointSeen then r.scale + ds.length else 0
        digitSeen := r.digitSeen || !ds.isEmpty } rest := by
  induction ds generalizing r with
  | nil =>
      have hself : (if r.pointSeen then r.scale + 0 else 0) = r.scale := by
        rcases hwhole with hseen | hzero
        · rw [if_pos hseen, Nat.add_zero]
        · rw [hzero, ite_self]
      have hnil : ofDigits [] = 0 := rfl
      rw [List.nil_append, List.length_nil, hself, hnil, Nat.pow_zero, Nat.mul_one, Nat.add_zero,
        List.isEmpty_nil, Bool.not_true, Bool.or_false]
  | cons c ds ih =>
      obtain ⟨hc, hds⟩ := List.forall_mem_cons.1 hds
      have hfull : (r.pointSeen && decide (maxScale ≤ r.scale)) = false := by
        rcases hplaces with hplaces | hunseen
        · rw [List.length_cons] at hplaces
          rw [decide_eq_false (by omega), Bool.and_false]
        · rw [hunseen, Bool.false_and]
      have hcollect : r.coefficient * 10 ^ (c :: ds).length + ofDigits (c :: ds) =
          (r.coefficient * 10 + (c.toNat - 48)) * 10 ^ ds.length + ofDigits ds := by
        rw [ofDigits_cons, List.length_cons, pow_succ]
        ring
      rw [hcollect] at hroom ⊢
      have hnext : r.coefficient * 10 + (c.toNat - 48) < coefficientBound :=
        Nat.lt_of_le_of_lt
          ((Nat.le_mul_of_pos_right _ (by positivity)).trans (Nat.le_add_right _ _)) hroom
      rw [List.cons_append, run, hfull, if_neg Bool.false_ne_true, if_pos hc]
      dsimp only
      rw [if_pos hnext, ih hds hroom]
      · rw [List.length_cons, List.isEmpty_cons, Bool.not_false, Bool.or_true, Bool.true_or]
        cases r.pointSeen with
        | false => rfl
        | true =>
            simp only [if_pos]
            rw [Nat.add_right_comm, Nat.add_assoc]
      · dsimp only
        rcases hplaces with hplaces | hunseen
        · rw [List.length_cons] at hplaces
          split
          · exact Or.inl (by omega)
          · rename_i hunseen
            exact Or.inr (Bool.eq_false_of_not_eq_true hunseen)
        · exact Or.inr hunseen
      · dsimp only
        cases r.pointSeen with
        | false => exact Or.inr rfl
        | true => exact Or.inl rfl

/-- The digits before the point and behind it make the coefficient, and those behind it the scale. -/
theorem run_parts {whole fraction : List Char} (negative : Bool) (hwhole : IsDigits whole) (hfraction : IsFraction fraction)
    (hroom : ofDigits (whole ++ fraction.tail) < coefficientBound)
    (hplaces : fraction.tail.length ≤ maxScale) (rest : List Char) :
    run negative ⟨0, 0, false, false⟩ (whole ++ (fraction ++ rest)) =
      run negative ⟨ofDigits (whole ++ fraction.tail), fraction.tail.length, !fraction.isEmpty, true⟩
        rest := by
  have hnonempty : (!whole.isEmpty) = true := by
    rw [Bool.not_eq_true', List.isEmpty_eq_false_iff]
    exact hwhole.1
  rw [ofDigits_append] at hroom
  have hfirst : ofDigits whole < coefficientBound :=
    Nat.lt_of_le_of_lt ((Nat.le_mul_of_pos_right _ (by positivity)).trans (Nat.le_add_right _ _)) hroom
  rw [run_append hwhole.2 (by rw [Nat.zero_mul, Nat.zero_add]; exact hfirst) (Or.inr rfl) (Or.inr rfl)]
  dsimp only
  rw [Nat.zero_mul, Nat.zero_add, Bool.false_or, hnonempty, if_neg Bool.false_ne_true]
  cases hfraction with
  | none => rw [List.tail_nil, List.append_nil]; rfl
  | @some ds hds =>
      have hpoint : run negative ⟨ofDigits whole, 0, false, true⟩ ('.' :: (ds ++ rest)) =
          run negative ⟨ofDigits whole, 0, true, true⟩ (ds ++ rest) := rfl
      rw [List.tail_cons] at hroom hplaces
      have hdigits : ofDigits whole * 10 ^ ds.length + ofDigits ds = ofDigits (whole ++ ds) :=
        (ofDigits_append whole ds).symm
      rw [List.cons_append, hpoint, run_append hds.2 hroom (Or.inl (by dsimp only; omega)) (Or.inl rfl),
        List.tail_cons]
      dsimp only
      rw [hdigits, if_pos rfl, Nat.zero_add]
      rfl

/-- A letter ends the reading without a decimal. -/
theorem run_letter (r : Reading) (cs : List Char) : r.run negative ('e' :: cs) = none := by
  rw [run]
  split
  · rfl
  · rfl

end Reading

/-! ### Parts of a text -/

/-- An exponent of digits is the number that they denote. -/
theorem exponent?_digits {ds : List Char} (hds : IsDigits ds) (hsize : ofDigits ds < Nat.pow 2 32) :
    exponent? ds = some (ofDigits ds) := by
  obtain ⟨d, ds, rfl⟩ := List.exists_cons_of_ne_nil hds.1
  rw [exponent?]
  · rw [natural?_of_all hds.1 (List.all_eq_true.2 hds.2), Option.filter_some, decide_eq_true hsize,
      if_pos rfl]
  · intro cs heq
    have hsign := hds.2 d List.mem_cons_self
    rw [(List.cons.inj heq).1] at hsign
    cases hsign

/-- A negative exponent adds to the scale of what stands before it. -/
theorem scientific?_append {cs ds : List Char} (hcs : 'e' ∉ cs ∧ 'E' ∉ cs) (hds : IsDigits ds)
    (hsize : ofDigits ds < Nat.pow 2 32) : scientific? (cs ++ 'e' :: '-' :: ds) =
      (plain? cs).bind fun d => ofParts? d.negative d.coefficient (d.scale + ofDigits ds) := by
  have hmark : ∀ c ∈ cs, (!(decide (c = 'e') || decide (c = 'E'))) = true := by
    intro c hc
    rw [decide_eq_false fun h : c = 'e' => hcs.1 (h ▸ hc),
      decide_eq_false fun h : c = 'E' => hcs.2 (h ▸ hc)]
    rfl
  have hdrop : (cs ++ 'e' :: '-' :: ds).dropWhile (fun c => !(decide (c = 'e') || decide (c = 'E'))) =
      'e' :: '-' :: ds := (List.dropWhile_append_of_pos hmark).trans rfl
  have htake : (cs ++ 'e' :: '-' :: ds).takeWhile (fun c => !(decide (c = 'e') || decide (c = 'E'))) =
      cs := (List.takeWhile_append_of_pos hmark).trans (List.append_nil cs)
  rw [scientific?]
  dsimp only
  rw [hdrop, htake]
  dsimp only
  cases plain? cs with
  | none => rfl
  | some d =>
      show (exponent? ds).bind (fun e => ofParts? d.negative d.coefficient (d.scale + e)) = _
      rw [exponent?_digits hds hsize]
      rfl

theorem plain?_signed {whole : List Char} (hwhole : IsDigits whole) (negative : Bool)
    (rest : List Char) : plain? (Format.signed negative (whole ++ rest)) =
      Reading.run negative ⟨0, 0, false, false⟩ (whole ++ rest) := by
  cases negative with
  | true => rfl
  | false =>
      obtain ⟨d, ds, rfl⟩ := List.exists_cons_of_ne_nil hwhole.1
      have hd := hwhole.2 d List.mem_cons_self
      have hsign {c : Char} (hc : isAsciiDigit c = false) (cs : List Char) :
          d :: ds ++ rest = c :: cs → False := by
        intro heq
        rw [← (List.cons.inj heq).1, hd] at hc
        cases hc
      rw [Format.signed, if_neg Bool.false_ne_true, plain?]
      · exact hsign rfl
      · exact hsign rfl

section Parts

variable {whole fraction : List Char} (hwhole : IsDigits whole) (hfraction : IsFraction fraction)
  (hroom : ofDigits (whole ++ fraction.tail) < coefficientBound)
  (hpos : 0 < ofDigits (whole ++ fraction.tail))
include hwhole hfraction hroom hpos

/-- A number in plain notation is read with its digits. -/
theorem plain?_parts (hplaces : fraction.tail.length ≤ maxScale) (negative : Bool) :
    plain? (Format.signed negative (whole ++ fraction)) =
      some ⟨negative, ofDigits (whole ++ fraction.tail), fraction.tail.length, hroom, hplaces⟩ := by
  have hread := plain?_signed hwhole negative fraction
  have hrun := Reading.run_parts negative hwhole hfraction hroom hplaces []
  have hclose : Reading.run negative
      ⟨ofDigits (whole ++ fraction.tail), fraction.tail.length, !fraction.isEmpty, true⟩ [] =
        (ofParts? negative (ofDigits (whole ++ fraction.tail)) fraction.tail.length).map unsignZero := rfl
  rw [List.append_nil] at hrun
  rw [hread, hrun, hclose, ofParts?, dif_pos ⟨hroom, hplaces⟩, Option.map_some, unsignZero, isZero]
  simp only [beq_eq_false_iff_ne.2 hpos.ne', Bool.not_false, Bool.and_true]

theorem parse?_parts (hplaces : fraction.tail.length ≤ maxScale) (negative : Bool) :
    parse? (Format.signed negative (whole ++ fraction)) =
      some ⟨negative, ofDigits (whole ++ fraction.tail), fraction.tail.length, hroom, hplaces⟩ := by
  rw [parse?, plain?_parts hwhole hfraction hroom hpos hplaces]

/-- With a negative exponent the scale is so much greater. -/
theorem parse?_parts_exponent {ds : List Char} (hds : IsDigits ds)
    (hplaces : fraction.tail.length + ofDigits ds ≤ maxScale) (negative : Bool) :
    parse? (Format.signed negative (whole ++ fraction ++ 'e' :: '-' :: ds)) =
      some ⟨negative, ofDigits (whole ++ fraction.tail), fraction.tail.length + ofDigits ds, hroom,
        hplaces⟩ := by
  have hplaces' : fraction.tail.length ≤ maxScale := Nat.le_of_add_right_le hplaces
  have hsize : ofDigits ds < Nat.pow 2 32 :=
    Nat.lt_of_le_of_lt (Nat.le_of_add_left_le hplaces) (by decide)
  have hplain : plain? (Format.signed negative (whole ++ fraction ++ 'e' :: '-' :: ds)) = none := by
    rw [List.append_assoc, plain?_signed hwhole negative,
      Reading.run_parts negative hwhole hfraction hroom hplaces', Reading.run_letter]
  have hletter {c : Char} (hc : isAsciiDigit c = false) (hpoint : c ≠ '.') (hsign : c ≠ '-') :
      c ∉ Format.signed negative (whole ++ fraction) := by
    have hbody : c ∉ whole ++ fraction := by
      rw [List.mem_append, not_or]
      exact ⟨fun h => Bool.false_ne_true (hc.symm.trans (hwhole.2 c h)), hfraction.notMem hc hpoint⟩
    cases negative with
    | false => exact hbody
    | true => exact List.not_mem_cons_of_ne_of_not_mem hsign hbody
  have hsplit : Format.signed negative (whole ++ fraction ++ 'e' :: '-' :: ds) =
      Format.signed negative (whole ++ fraction) ++ 'e' :: '-' :: ds := by
    cases negative <;> rfl
  rw [parse?, hplain]
  dsimp only
  rw [hsplit, scientific?_append ⟨hletter rfl (by decide) (by decide), hletter rfl (by decide) (by decide)⟩
    hds hsize, plain?_parts hwhole hfraction hroom hpos hplaces', Option.bind_some, ofParts?,
    dif_pos ⟨hroom, hplaces⟩]

end Parts

end Decimal

namespace Number

/-! ### The form of JSON -/

namespace Scientific

variable {s : Scientific} {c p places : Nat}

/-- Digits of which the first and the last are not zero. -/
structure IsNormal (s : Scientific) : Prop where
  isDigits : IsDigits s.digits
  first : ∀ hne : s.digits ≠ [], s.digits.head hne ≠ '0'
  last : ofDigits s.digits % 10 ≠ 0

/-- The last digit that is left is not zero. -/
theorem ofDigits_stripZeros_mod {ds : List Char} (h : ∀ c ∈ ds, isAsciiDigit c = true)
    (hne : stripZeros ds ≠ []) : ofDigits (stripZeros ds) % 10 ≠ 0 := by
  induction ds using List.reverseRecOn with
  | nil => exact absurd rfl hne
  | append_singleton ds c ih =>
      obtain ⟨hds, hc⟩ := List.forall_mem_append.1 h
      rw [stripZeros_concat] at hne ⊢
      split at hne
      · rename_i hzero
        rw [if_pos hzero]
        exact ih hds hne
      · rename_i hzero
        obtain ⟨hlow, hhigh⟩ := toNat_of_isAsciiDigit (hc c List.mem_cons_self)
        have hcode : c.toNat ≠ 48 := fun h => hzero (Char.toNat_inj.1 h)
        have hsingle : ofDigits [c] = 10 * 0 + (c.toNat - 48) := rfl
        rw [if_neg hzero, ofDigits_append, hsingle, List.length_singleton, pow_one]
        omega

theorem isNormal_ofScaled {d : Nat} (hd : d ≠ 0) (k : Int) : (ofScaled d k).IsNormal := by
  obtain ⟨c, cs, hcons, hc⟩ := digits_eq_cons hd
  obtain ⟨cs', hstrip⟩ := stripZeros_cons hc cs
  have hall : IsDigits (c :: cs) :=
    ⟨List.cons_ne_nil _ _, fun _ hmem => isAsciiDigit_of_mem_digits (hcons ▸ hmem)⟩
  have hdigits : (ofScaled d k).digits = stripZeros (c :: cs) := by rw [ofScaled, hcons]
  refine ⟨hdigits ▸ isDigits_stripZeros hc hall, fun hne => ?_,
    hdigits ▸ ofDigits_stripZeros_mod hall.2 (hstrip ▸ List.cons_ne_nil _ _)⟩
  have hfirst : (ofScaled d k).digits = c :: cs' := hdigits.trans hstrip
  simp only [hfirst, List.head_cons]
  exact hc

/-- The places of a number with a fraction are not more than those of any way to write it. -/
theorem IsNormal.exists_places (h : s.IsNormal) (hvalue : s.value = c * 10 ^ (-places : Int))
    (hfraction : c % 10 ^ places ≠ 0) : ∃ p, 0 < p ∧ p ≤ places ∧
      (s.digits.length : Int) = s.exponent + 1 + p ∧ ofDigits s.digits ≤ c := by
  have hten : (10 : ℚ) ≠ 0 := by norm_num
  rw [value] at hvalue
  generalize hp : (s.digits.length : Int) - 1 - s.exponent = p at hvalue
  have hexponent : s.exponent + 1 - s.digits.length = -p := by omega
  rw [hexponent] at hvalue
  have hscaled (k : Int) : (ofDigits s.digits : ℚ) * 10 ^ (k - p) = c * 10 ^ (k - places) := by
    rw [sub_eq_add_neg, sub_eq_add_neg, zpow_add₀ hten, zpow_add₀ hten, mul_left_comm, hvalue,
      mul_left_comm]
  have hle : p ≤ places := by
    by_contra hlt
    obtain ⟨j, hj⟩ : ∃ j : Nat, p - places = (j + 1 : Nat) := ⟨(p - places - 1).toNat, by omega⟩
    have hdigits := hscaled p
    rw [sub_self, zpow_zero, mul_one, hj, zpow_natCast] at hdigits
    have hdigits' : ofDigits s.digits = c * 10 ^ (j + 1) := by exact_mod_cast hdigits
    refine h.last ?_
    rw [hdigits', pow_succ, ← Nat.mul_assoc, Nat.mul_mod_left]
  obtain ⟨j, hj⟩ : ∃ j : Nat, places - p = j := ⟨(places - p).toNat, by omega⟩
  have hcoefficient := hscaled places
  rw [sub_self, zpow_zero, mul_one, hj, zpow_natCast] at hcoefficient
  have hcoefficient' : ofDigits s.digits * 10 ^ j = c := by exact_mod_cast hcoefficient
  have hpos : 0 < p := by
    by_contra hneg
    refine hfraction (Nat.mod_eq_zero_of_dvd ?_)
    rw [← hcoefficient']
    exact Dvd.dvd.mul_left (pow_dvd_pow 10 (by omega)) _
  refine ⟨p.toNat, by omega, by omega, by omega, ?_⟩
  rw [← hcoefficient']
  exact Nat.le_mul_of_pos_right _ (by positivity)

/-- Digits of a number of fifteen digits are fifteen at most. -/
theorem IsNormal.length_le (h : s.IsNormal) (hc : ofDigits s.digits < 10 ^ 15) :
    s.digits.length ≤ 15 := by
  have hle := le_ofDigits h.isDigits.2 h.isDigits.1 (h.first h.isDigits.1)
  have hlt := (Nat.pow_lt_pow_iff_right (by decide : 1 < 10)).1 (hle.trans_lt hc)
  omega

/-- The JSON form of a number with a fraction and few digits is read as the decimal with these digits. -/
theorem IsNormal.parse?_json (h : s.IsNormal) (hlength : s.digits.length ≤ 15) (hp : 0 < p)
    (hplaces : (s.digits.length : Int) = s.exponent + 1 + p) (hscale : p ≤ Decimal.maxScale) (negative : Bool) :
    ∃ hroom, Decimal.parse? (Format.signed negative s.json) =
      some ⟨negative, ofDigits s.digits, p, hroom, hscale⟩ := by
  have hroom : ofDigits s.digits < Decimal.coefficientBound := by
    calc ofDigits s.digits < Nat.pow 10 s.digits.length := ofDigits_lt (List.all_eq_true.2 h.isDigits.2)
      _ ≤ Nat.pow 10 15 := Nat.pow_le_pow_right (by decide) hlength
      _ < Decimal.coefficientBound := by decide
  have hpos : 0 < ofDigits s.digits := Nat.pos_of_ne_zero fun hzero => h.last (by rw [hzero])
  refine ⟨hroom, ?_⟩
  rw [json]
  split
  · rename_i hsize
    rw [Bool.or_eq_true, decide_eq_true_iff, decide_eq_true_iff] at hsize
    obtain ⟨d, fraction, hwhole, hfraction, hcons, htext⟩ := exists_exponential_parts h.isDigits
      fun e => 'e' :: sign e :: Text.digits e.natAbs
    have hlength' := congrArg List.length hcons
    rw [List.length_cons] at hlength'
    have hexponent : IsDigits (Text.digits s.exponent.natAbs) :=
      ⟨digits_ne_nil _, fun _ => isAsciiDigit_of_mem_digits⟩
    have hsign : sign s.exponent = '-' := if_pos (by omega)
    rw [hsign] at htext
    have hdigits : ofDigits ([d] ++ fraction.tail) = ofDigits s.digits := by rw [hcons]; rfl
    have hlast : fraction.tail.length + ofDigits (Text.digits s.exponent.natAbs) = p := by
      rw [ofDigits_digits]
      omega
    have hread := Decimal.parse?_parts_exponent hwhole hfraction (hdigits ▸ hroom) (hdigits ▸ hpos)
      hexponent (hlast ▸ hscale) negative
    rw [htext]
    simp only [hread, hdigits, hlast]
  · obtain ⟨whole, fraction, hwhole, hfraction, htext, hdigits, hlast⟩ :=
      exists_positional_parts h.isDigits hp hplaces
    have hpoint : (whole ++ '.' :: fraction).contains '.' = true :=
      List.contains_iff_mem.2 (List.mem_append_right _ List.mem_cons_self)
    rw [htext]
    dsimp only
    rw [hpoint, if_pos rfl]
    have hread := Decimal.parse?_parts hwhole (.some hfraction) (hdigits ▸ hroom) (hdigits ▸ hpos)
      (hlast ▸ hscale) negative
    simp only [hread, List.tail_cons, hdigits, hlast]

end Scientific

end Number

end Elementwise
