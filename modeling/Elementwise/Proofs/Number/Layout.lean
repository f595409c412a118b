import Elementwise.Eval.Term
import Elementwise.Proofs.Number.Shortest
import Elementwise.Proofs.Tokens.Real
import Elementwise.Proofs.Value.Equality

/-!
Numbers in floating point as text.  The text form is laid out anew from a scientific rendering; in
whichever way that is done, the text denotes the number that the rendering denotes.  Since the shortest
digits of a number denote one that is rounded to it, the text of every finite number is read as that
number.
-/

namespace Elementwise

open Text
open Token (IsDigits IsFraction IsExponent exponentValue)

namespace Text

/-- A text without spaces has none at its ends. -/
theorem trim_of_forall {cs : List Char} (h : ∀ c ∈ cs, isSpace c = false) : trim cs = cs := by
  have hdrop {cs : List Char} (h : ∀ c ∈ cs, isSpace c = false) : cs.dropWhile isSpace = cs := by
    cases cs with
    | nil => rfl
    | cons c cs => exact List.dropWhile_cons_of_neg (by rw [h c List.mem_cons_self]; decide)
  rw [trim, trimStart, hdrop h, trimEnd, hdrop fun c hc => h c (List.mem_reverse.1 hc),
    List.reverse_reverse]

end Text

namespace Token

/-! ### Characters in the parts of a number -/

variable {ds fraction exponent : List Char}

theorem IsDigits.isSpace_of_mem (h : IsDigits ds) : ∀ c ∈ ds, isSpace c = false :=
  fun c hc => isSpace_of_isAsciiDigit (h.2 c hc)

theorem IsFraction.isSpace_of_mem (h : IsFraction fraction) : ∀ c ∈ fraction, isSpace c = false := by
  cases h with
  | none => exact List.forall_mem_nil _
  | some hds => exact List.forall_mem_cons.2 ⟨rfl, hds.isSpace_of_mem⟩

theorem IsFraction.notMem {c : Char} (h : IsFraction fraction) (hc : isAsciiDigit c = false)
    (hpoint : c ≠ '.') : c ∉ fraction := by
  intro hmem
  cases h with
  | none => cases hmem
  | some hds =>
      have hdigit := hds.2 c ((List.mem_cons.1 hmem).resolve_left hpoint)
      rw [hc] at hdigit
      cases hdigit

theorem IsFraction.filter_isAsciiDigit (h : IsFraction fraction) :
    fraction.filter isAsciiDigit = fraction.tail := by
  cases h with
  | none => rfl
  | some hds => exact List.filter_eq_self.2 hds.2

theorem IsExponent.isSpace_of_mem (h : IsExponent exponent) : ∀ c ∈ exponent, isSpace c = false := by
  have hletter {c : Char} (hc : isExponentLetter c = true) : isSpace c = false := by
    simp only [isExponentLetter, Bool.or_eq_true, beq_iff_eq] at hc
    obtain rfl | rfl := hc <;> rfl
  have hsign {c : Char} (hc : isSign c = true) : isSpace c = false := by
    simp only [isSign, Bool.or_eq_true, beq_iff_eq] at hc
    obtain rfl | rfl := hc <;> rfl
  cases h with
  | none => exact List.forall_mem_nil _
  | unsigned hfirst hds => exact List.forall_mem_cons.2 ⟨hletter hfirst, hds.isSpace_of_mem⟩
  | signed hfirst hsecond hds =>
      exact List.forall_mem_cons.2
        ⟨hletter hfirst, List.forall_mem_cons.2 ⟨hsign hsecond, hds.isSpace_of_mem⟩⟩

end Token

namespace Number

/-! ### Decimal numbers as text -/

/-- A digit is no sign, so the first character tells whether there is one. -/
theorem head?_signed {d : Char} (hd : isAsciiDigit d = true) (negative : Bool) (cs : List Char) :
    ((Format.signed negative (d :: cs)).head? == some '-') = negative := by
  cases negative with
  | true => rfl
  | false =>
      refine beq_eq_false_iff_ne.2 fun hsign => ?_
      cases hsign
      cases hd

/-- A decimal number as text: a minus sign, digits, a fraction and an exponent, of which only the digits
have to be there. -/
structure DecimalText where
  negative : Bool
  whole : List Char
  fraction : List Char
  exponent : List Char
  isDigits : IsDigits whole
  isFraction : IsFraction fraction
  isExponent : IsExponent exponent

namespace DecimalText

variable (n : DecimalText)

def text (n : DecimalText) : List Char :=
  Format.signed n.negative (n.whole ++ n.fraction ++ n.exponent)

/-- The digits of the number and where the point stands among them. -/
def numeral (n : DecimalText) : Numeral :=
  ⟨n.whole ++ n.fraction.tail, n.fraction.tail.length, exponentValue n.exponent⟩

def value (n : DecimalText) : ℚ :=
  if n.negative then -n.numeral.value else n.numeral.value

theorem parse?_text (f : Format) : f.parse? n.text = some (n.numeral.nearest f n.negative) :=
  Token.parse?_parts n.isDigits n.isFraction n.isExponent f n.negative

theorem rounds_nearest {f : Format} (hf : f = .single ∨ f = .double) :
    f.Rounds n.negative n.numeral.value (n.numeral.nearest f n.negative) :=
  Numeral.rounds_nearest hf (Token.isAsciiDigit_of_mem_append n.isDigits n.isFraction)

/-- A text tells its sign and its digits, so it denotes one number. -/
theorem value_eq_of_text_eq {n n' : DecimalText} (h : n.text = n'.text) : n.value = n'.value := by
  have hhead (n : DecimalText) : (n.text.head? == some '-') = n.negative := by
    obtain ⟨d, ds, hcons⟩ := List.exists_cons_of_ne_nil n.isDigits.1
    rw [text, hcons]
    exact head?_signed (n.isDigits.2 d (hcons ▸ List.mem_cons_self)) n.negative _
  have hnegative : n.negative = n'.negative := by rw [← hhead, h, hhead]
  have hparse (n : DecimalText) : Numeral.parse? (n.whole ++ n.fraction ++ n.exponent) =
      some n.numeral := Token.parse?_append n.isDigits n.isFraction n.isExponent
  have hbody : n.whole ++ n.fraction ++ n.exponent = n'.whole ++ n'.fraction ++ n'.exponent := by
    rw [text, text, hnegative, Format.signed, Format.signed] at h
    split at h
    · exact (List.cons.inj h).2
    · exact h
  have hnumeral : n.numeral = n'.numeral := by
    have hsame := hparse n
    rw [hbody, hparse n'] at hsame
    exact (Option.some.inj hsame).symm
  rw [value, value, hnegative, hnumeral]

/-- No space stands in the text of a number. -/
theorem isSpace_of_mem_text : ∀ c ∈ n.text, isSpace c = false := by
  have hbody : ∀ c ∈ n.whole ++ n.fraction ++ n.exponent, isSpace c = false :=
    List.forall_mem_append.2 ⟨List.forall_mem_append.2
      ⟨n.isDigits.isSpace_of_mem, n.isFraction.isSpace_of_mem⟩, n.isExponent.isSpace_of_mem⟩
  rw [text, Format.signed]
  split
  · exact List.forall_mem_cons.2 ⟨rfl, hbody⟩
  · exact hbody

end DecimalText

/-- The text denotes the decimal number. -/
def Denotes (cs : List Char) (q : ℚ) : Prop :=
  ∃ n : DecimalText, n.text = cs ∧ n.value = q

theorem DecimalText.denotes_iff (n : DecimalText) (q : ℚ) : Denotes n.text q ↔ q = n.value := by
  constructor
  · rintro ⟨n', htext, rfl⟩
    exact value_eq_of_text_eq htext
  · rintro rfl
    exact ⟨n, rfl, rfl⟩

/-! ### Digits without zeros at their end -/

section Zeros

variable {d : Char} {ds : List Char}

theorem stripZeros_concat (ds : List Char) (d : Char) :
    stripZeros (ds ++ [d]) = if d = '0' then stripZeros ds else ds ++ [d] := by
  rw [stripZeros, List.reverse_concat, List.dropWhile_cons]
  by_cases hd : d = '0'
  · rw [if_pos (beq_iff_eq.2 hd), if_pos hd]
    rfl
  · rw [if_neg (by rwa [beq_iff_eq]), if_neg hd, List.reverse_cons, List.reverse_reverse]

/-- What is taken away is zeros. -/
theorem exists_zeros (ds : List Char) : ∃ z, ds = stripZeros ds ++ List.replicate z '0' := by
  induction ds using List.reverseRecOn with
  | nil => exact ⟨0, rfl⟩
  | append_singleton ds d ih =>
      rw [stripZeros_concat]
      split
      · rename_i hd
        obtain ⟨z, hz⟩ := ih
        refine ⟨z + 1, ?_⟩
        rw [List.replicate_succ', ← List.append_assoc, ← hz, hd]
      · exact ⟨0, (List.append_nil _).symm⟩

/-- The first digit stays if it is not zero. -/
theorem stripZeros_cons (hd : d ≠ '0') (ds : List Char) :
    ∃ ds', stripZeros (d :: ds) = d :: ds' := by
  obtain ⟨z, hz⟩ := exists_zeros (d :: ds)
  cases hstrip : stripZeros (d :: ds) with
  | nil =>
      rw [hstrip, List.nil_append] at hz
      exact absurd (List.eq_of_mem_replicate (hz ▸ List.mem_cons_self)) hd
  | cons c ds' =>
      rw [hstrip] at hz
      exact ⟨ds', by rw [(List.cons.inj hz).1]⟩

theorem isDigits_stripZeros (hd : d ≠ '0') (h : IsDigits (d :: ds)) :
    IsDigits (stripZeros (d :: ds)) := by
  obtain ⟨ds', hstrip⟩ := stripZeros_cons hd ds
  obtain ⟨z, hz⟩ := exists_zeros (d :: ds)
  refine ⟨hstrip ▸ List.cons_ne_nil _ _, fun c hc => h.2 c ?_⟩
  rw [hz]
  exact List.mem_append_left _ hc

theorem ofDigits_zeros (z : Nat) : ofDigits (List.replicate z '0') = 0 := by
  rw [ofDigits, Nat.ofDigitChars_replicate_zero, Nat.mul_zero]

theorem ofDigits_append_zeros (ds : List Char) (z : Nat) :
    ofDigits (ds ++ List.replicate z '0') = ofDigits ds * 10 ^ z := by
  rw [ofDigits_append, List.length_replicate, ofDigits_zeros, Nat.add_zero]

theorem ofDigits_zeros_append (z : Nat) (ds : List Char) :
    ofDigits (List.replicate z '0' ++ ds) = ofDigits ds := by
  rw [ofDigits_append, ofDigits_zeros, Nat.zero_mul, Nat.zero_add]

theorem isAsciiDigit_of_mem_zeros (z : Nat) : ∀ c ∈ List.replicate z '0', isAsciiDigit c = true := by
  intro c hc
  rw [List.eq_of_mem_replicate hc]
  rfl

theorem isDigits_zero : IsDigits ['0'] :=
  ⟨List.cons_ne_nil _ _, isAsciiDigit_of_mem_zeros 1⟩

/-- The digits of a number other than zero do not start with zero. -/
theorem digits_eq_cons {n : Nat} (hn : n ≠ 0) : ∃ d ds, digits n = d :: ds ∧ d ≠ '0' := by
  obtain ⟨d, ds, hcons⟩ := List.exists_cons_of_ne_nil (digits_ne_nil n)
  refine ⟨d, ds, hcons, ?_⟩
  rintro rfl
  have hvalue : ofDigits ds = n := by rw [← ofDigits_digits n, hcons]; rfl
  have hall : ds.all isAsciiDigit = true := List.all_eq_true.2 fun c hc =>
    isAsciiDigit_of_mem_digits (hcons ▸ List.mem_cons_of_mem _ hc)
  rcases Nat.eq_zero_or_pos ds.length with hnil | hpos
  · rw [List.length_eq_zero_iff.1 hnil] at hvalue
    exact hn hvalue.symm
  · -- then fewer digits would be enough
    have hlength := (Nat.length_toDigits_le_iff (by decide) hpos).2 (hvalue ▸ ofDigits_lt hall)
    have hlonger := congrArg List.length hcons
    rw [List.length_cons] at hlonger
    exact absurd (hlonger.symm.le.trans hlength) (Nat.not_succ_le_self _)

end Zeros

/-! ### Layouts -/

namespace Scientific

variable {s : Scientific} {n : Numeral} {z : Nat}

/-- The number that digits with the point behind the first denote. -/
def value (s : Scientific) : ℚ :=
  ofDigits s.digits * 10 ^ (s.exponent + 1 - s.digits.length)

/-- Zeros among the digits of a numeral that are not among those of the number move the point. -/
theorem value_eq_of_zeros (hdigits : ofDigits n.digits = ofDigits s.digits * 10 ^ z)
    (hexponent : n.exponent - n.scale + z = s.exponent + 1 - s.digits.length) :
    n.value = s.value := by
  rw [value, ← hexponent, zpow_add₀ (by norm_num), zpow_natCast, Numeral.value, hdigits]
  push_cast
  ring

theorem value_stripZeros (ds : List Char) (x : Int) :
    value ⟨stripZeros ds, x⟩ = value ⟨ds, x⟩ := by
  obtain ⟨z, hz⟩ := exists_zeros ds
  have hdigits := ofDigits_append_zeros (stripZeros ds) z
  have hlength := congrArg List.length hz
  rw [List.length_append, List.length_replicate] at hlength
  rw [← hz] at hdigits
  have hexponent : x + 1 - (stripZeros ds).length = x + 1 - ds.length + z := by omega
  rw [value, value, hdigits, hexponent, zpow_add₀ (by norm_num), zpow_natCast]
  push_cast
  ring

theorem value_ofScaled (d : Nat) (k : Int) : (ofScaled d k).value = d * 10 ^ k := by
  have hexponent : k + (Text.digits d).length - 1 + 1 - (Text.digits d).length = k := by omega
  rw [ofScaled, value_stripZeros, value]
  dsimp only
  rw [ofDigits_digits, hexponent]

/-- The parts of a text denote the number if they add only zeros to its digits and the point stands
where it should. -/
theorem exists_of_parts {whole fraction exponent : List Char} (negative : Bool)
    (hwhole : IsDigits whole) (hfraction : IsFraction fraction) (hexponent : IsExponent exponent)
    (hdigits : ofDigits (whole ++ fraction.tail) = ofDigits s.digits * 10 ^ z)
    (hpoint : exponentValue exponent - fraction.tail.length + z = s.exponent + 1 - s.digits.length) :
    ∃ t : DecimalText, t.negative = negative ∧
      t.text = Format.signed negative (whole ++ fraction ++ exponent) ∧ t.numeral.value = s.value ∧
      t.whole = whole ∧ t.exponent = exponent :=
  ⟨⟨negative, whole, fraction, exponent, hwhole, hfraction, hexponent⟩, rfl, rfl,
    value_eq_of_zeros hdigits hpoint, rfl, rfl⟩

/-- With an exponent, the digits stand before it, and all but the first behind the point. -/
theorem exists_exponential_parts (hs : IsDigits s.digits) (write : Int → List Char) :
    ∃ d fraction, IsDigits [d] ∧ IsFraction fraction ∧ s.digits = d :: fraction.tail ∧
      s.exponential write = [d] ++ fraction ++ write s.exponent := by
  obtain ⟨d, ds, hcons⟩ := List.exists_cons_of_ne_nil hs.1
  obtain ⟨hd, hds⟩ := List.forall_mem_cons.1 (hcons ▸ hs.2)
  have hwhole : IsDigits [d] := ⟨List.cons_ne_nil _ _, List.forall_mem_singleton.2 hd⟩
  rw [exponential, hcons]
  cases ds with
  | nil => exact ⟨d, [], hwhole, .none, rfl, rfl⟩
  | cons c cs => exact ⟨d, '.' :: c :: cs, hwhole, .some ⟨List.cons_ne_nil _ _, hds⟩, rfl, rfl⟩

/-- With an exponent the number is the same, however the exponent is written. -/
theorem exists_exponential (negative : Bool) (hs : IsDigits s.digits) (write : Int → List Char)
    (hwrite : IsExponent (write s.exponent)) (hvalue : exponentValue (write s.exponent) = s.exponent) :
    ∃ t : DecimalText, t.negative = negative ∧ t.text = Format.signed negative (s.exponential write) ∧
      t.numeral.value = s.value ∧ t.whole = s.digits.take 1 ∧ t.exponent = write s.exponent := by
  obtain ⟨d, fraction, hd, hfraction, hcons, htext⟩ := exists_exponential_parts hs write
  have hdigits : ofDigits ([d] ++ fraction.tail) = ofDigits s.digits * 10 ^ 0 := by
    rw [hcons, pow_zero, mul_one, List.singleton_append]
  have hpoint : exponentValue (write s.exponent) - fraction.tail.length + (0 : Nat) =
      s.exponent + 1 - s.digits.length := by
    rw [hvalue, hcons, List.length_cons]
    omega
  have hparts := exists_of_parts negative hd hfraction hwrite hdigits hpoint
  rw [htext, hcons]
  exact hparts

theorem exists_without_exponent {whole fraction : List Char} (negative : Bool)
    (hwhole : IsDigits whole) (hfraction : IsFraction fraction)
    (hdigits : ofDigits (whole ++ fraction.tail) = ofDigits s.digits * 10 ^ z)
    (hpoint : s.exponent + 1 - s.digits.length = z - fraction.tail.length) :
    ∃ t : DecimalText, t.negative = negative ∧ t.text = Format.signed negative (whole ++ fraction) ∧
      t.numeral.value = s.value ∧ t.exponent = [] := by
  have hshift : exponentValue [] - fraction.tail.length + z = s.exponent + 1 - s.digits.length := by
    dsimp only [exponentValue]
    omega
  obtain ⟨t, hnegative, htext, hvalue, -, hexponent⟩ :=
    exists_of_parts negative hwhole hfraction .none hdigits hshift
  rw [List.append_nil] at htext
  exact ⟨t, hnegative, htext, hvalue, hexponent⟩

/-- Without an exponent, the places of the number are digits behind the point. -/
theorem exists_positional_parts {p : Nat} (hs : IsDigits s.digits) (hp : 0 < p)
    (hplaces : (s.digits.length : Int) = s.exponent + 1 + p) : ∃ whole fraction, IsDigits whole ∧
      IsDigits fraction ∧ s.positional = whole ++ '.' :: fraction ∧
        ofDigits (whole ++ fraction) = ofDigits s.digits ∧ fraction.length = p := by
  rw [positional]
  dsimp only
  split
  · -- all digits stand behind the point, and zeros before them
    rename_i hbehind
    generalize hz : (-(s.exponent + 1)).toNat = z
    have hfraction : IsDigits (List.replicate z '0' ++ s.digits) :=
      ⟨List.append_ne_nil_of_right_ne_nil _ hs.1,
        List.forall_mem_append.2 ⟨isAsciiDigit_of_mem_zeros z, hs.2⟩⟩
    refine ⟨['0'], _, isDigits_zero, hfraction, rfl, ofDigits_zeros_append (z + 1) s.digits, ?_⟩
    rw [List.length_append, List.length_replicate]
    omega
  · -- the point stands among the digits
    rename_i hfront
    generalize hx : (s.exponent + 1).toNat = x
    have hwhole : IsDigits (s.digits.take x) := by
      refine ⟨fun hnil => ?_, fun c hc => hs.2 c (List.mem_of_mem_take hc)⟩
      have hshort := congrArg List.length hnil
      rw [List.length_take, List.length_nil] at hshort
      omega
    have hfraction : IsDigits (s.digits.drop x) := by
      refine ⟨fun hnil => ?_, fun c hc => hs.2 c (List.mem_of_mem_drop hc)⟩
      have hshort := List.drop_eq_nil_iff.1 hnil
      omega
    rw [if_neg (by omega)]
    refine ⟨_, _, hwhole, hfraction, rfl, congrArg ofDigits (List.take_append_drop x s.digits), ?_⟩
    rw [List.length_drop]
    omega

/-- Without an exponent the number is the same, wherever the point stands. -/
theorem exists_positional (negative : Bool) (hs : IsDigits s.digits) :
    ∃ t : DecimalText, t.negative = negative ∧ t.text = Format.signed negative s.positional ∧
      t.numeral.value = s.value ∧ t.exponent = [] := by
  rcases lt_or_ge (s.exponent + 1) s.digits.length with hplaces | hlong
  · obtain ⟨p, hp⟩ : ∃ p : Nat, (s.digits.length : Int) = s.exponent + 1 + p :=
      ⟨(s.digits.length - (s.exponent + 1)).toNat, by omega⟩
    obtain ⟨whole, fraction, hwhole, hfraction, htext, hdigits, hlength⟩ :=
      exists_positional_parts hs (by omega) hp
    rw [htext]
    refine exists_without_exponent (z := 0) negative hwhole (.some hfraction) ?_ ?_
    · rw [List.tail_cons, hdigits, pow_zero, mul_one]
    · rw [List.tail_cons, hlength]
      omega
  · -- all digits stand before the point, and zeros behind them
    generalize hx : (s.exponent + 1).toNat = x
    have hpos := List.length_pos_of_ne_nil hs.1
    have hwhole : IsDigits (s.digits ++ List.replicate (x - s.digits.length) '0') :=
      ⟨List.append_ne_nil_of_left_ne_nil hs.1 _,
        List.forall_mem_append.2 ⟨hs.2, isAsciiDigit_of_mem_zeros _⟩⟩
    have hdigits := ofDigits_append_zeros s.digits (x - s.digits.length)
    have hpoint : s.exponent + 1 - s.digits.length =
        (x - s.digits.length : Nat) - (([] : List Char).length : Int) := by
      rw [List.length_nil]
      omega
    rw [positional]
    dsimp only
    rw [hx, if_neg (by omega), if_pos (by omega)]
    rw [← List.append_nil (s.digits ++ _)] at hdigits ⊢
    exact exists_without_exponent negative hwhole .none hdigits hpoint

end Scientific

namespace DecimalText

/-- A number is laid out with a number of guaranteed digits: without an exponent from -4 up to that
number, else with one digit before the point and an exponent that has a sign and two digits at least. -/
def IsLaidOut (t : DecimalText) (exponent : Int) (guaranteed : Nat) : Prop :=
  if -4 ≤ exponent ∧ exponent < guaranteed then t.exponent = []
  else t.whole.length = 1 ∧ ∃ sign ds, Token.isSign sign = true ∧ 2 ≤ ds.length ∧
    t.exponent = 'E' :: sign :: ds

end DecimalText

namespace Scientific

variable {s : Scientific}

theorem isExponent_integer (x : Int) : IsExponent ('e' :: integer x) ∧
    exponentValue ('e' :: integer x) = x := by
  have hdigits : IsDigits (Text.digits x.natAbs) :=
    ⟨digits_ne_nil _, fun _ => isAsciiDigit_of_mem_digits⟩
  rw [integer]
  split
  · refine ⟨.signed rfl rfl hdigits, ?_⟩
    show -(ofDigits (Text.digits x.natAbs) : Int) = x
    rw [ofDigits_digits]
    omega
  · refine ⟨.unsigned rfl hdigits, ?_⟩
    rw [Token.exponentValue_unsigned hdigits, ofDigits_digits]
    omega

theorem isExponent_padded (x : Int) : IsExponent ('E' :: sign x :: padded 2 x.natAbs) ∧
    exponentValue ('E' :: sign x :: padded 2 x.natAbs) = x := by
  have hdigits : IsDigits (padded 2 x.natAbs) :=
    ⟨padded_ne_nil _ _, fun _ => isAsciiDigit_of_mem_padded⟩
  rw [sign]
  split
  · refine ⟨.signed rfl rfl hdigits, ?_⟩
    show -(ofDigits (padded 2 x.natAbs) : Int) = x
    rw [ofDigits_padded]
    omega
  · refine ⟨.signed rfl rfl hdigits, ?_⟩
    show (ofDigits (padded 2 x.natAbs) : Int) = x
    rw [ofDigits_padded]
    omega

theorem isSign_sign (x : Int) : Token.isSign (sign x) = true := by
  rw [sign]
  split <;> rfl

/-- The text form of a number denotes it. -/
theorem exists_text (negative : Bool) (hs : IsDigits s.digits) (guaranteed : Nat) :
    ∃ t : DecimalText, t.negative = negative ∧ t.text = Format.signed negative (s.text guaranteed) ∧
      t.numeral.value = s.value ∧ t.IsLaidOut s.exponent guaranteed := by
  unfold Scientific.text
  dsimp only
  split
  · rename_i hpoint
    rw [Bool.or_eq_true, decide_eq_true_iff, decide_eq_true_iff] at hpoint
    obtain ⟨hexponent, hvalue⟩ := isExponent_padded s.exponent
    obtain ⟨t, hnegative, htext, hsame, hwhole, hlast⟩ :=
      exists_exponential negative hs (fun e => 'E' :: sign e :: padded 2 e.natAbs) hexponent hvalue
    refine ⟨t, hnegative, htext, hsame, ?_⟩
    rw [DecimalText.IsLaidOut, if_neg (by omega)]
    refine ⟨?_, _, _, isSign_sign s.exponent, ?_, hlast⟩
    · rw [hwhole, List.length_take]
      have := List.length_pos_of_ne_nil hs.1
      omega
    · rw [padded, List.length_append, List.length_replicate]
      omega
  · rename_i hpoint
    rw [Bool.or_eq_true, decide_eq_true_iff, decide_eq_true_iff] at hpoint
    obtain ⟨t, hnegative, htext, hsame, hlast⟩ := exists_positional negative hs
    refine ⟨t, hnegative, htext, hsame, ?_⟩
    rw [DecimalText.IsLaidOut, if_pos (by omega)]
    exact hlast

end Scientific

/-! ### Renderings -/

namespace DecimalText

variable {n : DecimalText}

/-- A scientific rendering: one digit before the point, which is not zero, and an exponent after an
`e`. -/
structure IsRendering (n : DecimalText) : Prop where
  whole : ∃ d, d ≠ '0' ∧ n.whole = [d]
  exponent : ∃ cs, n.exponent = 'e' :: cs

/-- The exponent of a rendering tells the size of the number. -/
theorem IsRendering.bounds (h : n.IsRendering) : 10 ^ exponentValue n.exponent ≤ n.numeral.value ∧
    n.numeral.value < 10 ^ (exponentValue n.exponent + 1) := by
  obtain ⟨d, hd, hwhole⟩ := h.whole
  have hall : ∀ c ∈ n.numeral.digits, isAsciiDigit c = true :=
    Token.isAsciiDigit_of_mem_append n.isDigits n.isFraction
  have hdigits : n.numeral.digits = d :: n.fraction.tail := by
    rw [numeral, hwhole]
    rfl
  have hdrop : n.numeral.digits.dropWhile (· == '0') = n.numeral.digits := by
    rw [hdigits, List.dropWhile_cons_of_neg (by rwa [beq_iff_eq])]
  have hne : ofDigits n.numeral.digits ≠ 0 := by
    have hfirst : (d :: n.fraction.tail).head (List.cons_ne_nil _ _) ≠ '0' := hd
    rw [hdigits] at hall ⊢
    have hle := le_ofDigits hall (List.cons_ne_nil _ _) hfirst
    exact (Nat.lt_of_lt_of_le (Nat.pow_pos (by decide)) hle).ne'
  have hbounds := Numeral.value_bounds hall (by rwa [hdrop])
  have hlast : n.numeral.exponent - n.numeral.scale + n.numeral.digits.length =
      exponentValue n.exponent + 1 := by
    rw [hdigits, numeral, List.length_cons]
    dsimp only
    omega
  rwa [hdrop, hlast, add_sub_cancel_right] at hbounds

/-- The digits and the exponent of a rendering are taken out of it, and then laid out anew. -/
theorem IsRendering.layout_text (h : n.IsRendering)
    (hexponent : (exponentValue n.exponent).natAbs < 2 ^ 31) (guaranteed : Nat) :
    Format.layout n.text guaranteed = Format.signed n.negative (Scientific.text
      ⟨stripZeros (n.whole ++ n.fraction.tail), exponentValue n.exponent⟩ guaranteed) := by
  obtain ⟨d, hd, hwhole⟩ := h.whole
  obtain ⟨cs, hcs⟩ := h.exponent
  have hdigit : isAsciiDigit d = true :=
    n.isDigits.2 d (hwhole ▸ List.mem_singleton_self d)
  have hall := Token.isAsciiDigit_of_mem_append n.isDigits n.isFraction
  have hmantissa : Format.signed n.negative (n.whole ++ n.fraction) ++ 'e' :: cs = n.text := by
    rw [text, hcs, Format.signed, Format.signed]
    split <;> rfl
  have hbody : 'e' ∉ n.whole ++ n.fraction := by
    rw [List.mem_append, not_or]
    exact ⟨fun h => Bool.false_ne_true (n.isDigits.2 _ h), n.isFraction.notMem rfl (by decide)⟩
  have hfront : 'e' ∉ Format.signed n.negative (n.whole ++ n.fraction) := by
    rw [Format.signed]
    split
    · exact List.not_mem_cons_of_ne_of_not_mem (by decide) hbody
    · exact hbody
  have hfilter : (Format.signed n.negative (n.whole ++ n.fraction)).filter isAsciiDigit =
      n.whole ++ n.fraction.tail := by
    have hsign : (Format.signed n.negative (n.whole ++ n.fraction)).filter isAsciiDigit =
        (n.whole ++ n.fraction).filter isAsciiDigit := by
      cases n.negative <;> rfl
    rw [hsign, List.filter_append, List.filter_eq_self.2 n.isDigits.2,
      n.isFraction.filter_isAsciiDigit]
  have hhead : ((Format.signed n.negative (n.whole ++ n.fraction)).head? == some '-') =
      n.negative := by
    rw [hwhole]
    exact head?_signed hdigit n.negative n.fraction
  have hword : ((Text.integer? cs).bind (Word.ofInt? .int32)).elim 0 Word.val =
      exponentValue n.exponent := by
    have hread := n.isExponent.integer?_tail (by rw [hcs]; exact List.cons_ne_nil _ _)
    have hmin : WordKind.int32.min = -2147483648 := by decide
    have hmax : WordKind.int32.max = 2147483647 := by decide
    rw [hcs, List.tail_cons, ← hcs] at hread
    rw [hread, Option.bind_some, Word.ofInt?, dif_pos (by omega)]
    rfl
  obtain ⟨ds', hstrip⟩ := stripZeros_cons hd n.fraction.tail
  rw [← hmantissa, Format.layout, splitOnce?_append_cons hfront, Option.getD_some]
  dsimp only
  rw [hfilter, hhead, hword, hwhole, List.singleton_append, hstrip]
  rfl

/-- What a rendering is laid out as denotes the same number. -/
theorem IsRendering.exists_layout (h : n.IsRendering)
    (hexponent : (exponentValue n.exponent).natAbs < 2 ^ 31) (guaranteed : Nat) :
    ∃ t : DecimalText, t.negative = n.negative ∧ t.text = Format.layout n.text guaranteed ∧
      t.numeral.value = n.numeral.value ∧ t.IsLaidOut (exponentValue n.exponent) guaranteed := by
  have hlayout := h.layout_text hexponent guaranteed
  obtain ⟨d, hd, hwhole⟩ := h.whole
  have hall := Token.isAsciiDigit_of_mem_append n.isDigits n.isFraction
  rw [hwhole, List.singleton_append] at hall hlayout
  have hdigits := isDigits_stripZeros hd ⟨List.cons_ne_nil _ _, hall⟩
  obtain ⟨t, hnegative, htext, hsame, hlaid⟩ := Scientific.exists_text
    (s := ⟨stripZeros (d :: n.fraction.tail), exponentValue n.exponent⟩) n.negative hdigits guaranteed
  refine ⟨t, hnegative, htext.trans hlayout.symm, ?_, hlaid⟩
  rw [hsame, Scientific.value_stripZeros]
  refine (Scientific.value_eq_of_zeros (z := 0) ?_ ?_).symm
  · rw [numeral, hwhole, pow_zero, mul_one]
    rfl
  · rw [numeral, List.length_cons]
    dsimp only
    omega

/-- The digits of a number other than zero, scaled by a power of ten, are rendered. -/
theorem exists_rendering (negative : Bool) {d : Nat} (hd : d ≠ 0) (k : Int) :
    ∃ n : DecimalText, n.negative = negative ∧
      n.text = Format.signed negative (Scientific.ofScaled d k).rendering ∧
      n.numeral.value = d * 10 ^ k ∧ n.IsRendering := by
  obtain ⟨c, cs, hcons, hc⟩ := digits_eq_cons hd
  obtain ⟨cs', hstrip⟩ := stripZeros_cons hc cs
  have hdigits : IsDigits (Scientific.ofScaled d k).digits := by
    rw [Scientific.ofScaled, hcons]
    refine isDigits_stripZeros hc ⟨List.cons_ne_nil _ _, fun _ hmem => ?_⟩
    exact isAsciiDigit_of_mem_digits (hcons ▸ hmem)
  obtain ⟨hexponent, hvalue⟩ := Scientific.isExponent_integer (Scientific.ofScaled d k).exponent
  obtain ⟨n, hnegative, htext, hsame, hwhole, hlast⟩ := Scientific.exists_exponential negative hdigits
    (fun e => 'e' :: integer e) hexponent hvalue
  refine ⟨n, hnegative, htext, hsame.trans (Scientific.value_ofScaled d k), ⟨c, hc, ?_⟩, _, hlast⟩
  rw [hwhole, Scientific.ofScaled, hcons, hstrip]
  rfl

end DecimalText

/-! ### Reading a number back -/

namespace Format

variable {f : Format} {m : Nat} {e : Int}

/-- The exponents of decimal numbers that are rounded to a number other than zero are small. -/
theorem natAbs_lt_of_bounds {q : ℚ} {x : Int} (hf : f = .single ∨ f = .double) (h : f.Holds m e)
    (hm : 0 < m) (hq : f.InInterval m e q) (hlow : 10 ^ x ≤ q) (hhigh : q < 10 ^ (x + 1)) :
    x.natAbs < 2 ^ 31 := by
  obtain ⟨hoverflow, hunderflow⟩ := Numeral.bounds_of_format hf
  have hp : 0 < f.precision := by rcases hf with rfl | rfl <;> decide
  have hten : (1 : ℚ) < 10 := by norm_num
  have hunit : (2 : ℚ) ^ (f.minExponent - 1) ≤ 2 ^ e / 2 := by
    rw [← half_unit]
    exact zpow_le_zpow_right₀ one_le_two (Int.sub_le_sub_right h.minExponent_le 1)
  have hlarge : (10 : ℚ) ^ x < 10 ^ (400 : Int) :=
    (hlow.trans_lt (hq.lt_overflow hp h)).trans_le hoverflow
  have hsmall : (10 : ℚ) ^ (-400 : Int) < 10 ^ (x + 1) :=
    ((hunderflow.trans hunit).trans (hq.pos hm)).trans_lt hhigh
  rw [zpow_lt_zpow_iff_right₀ hten] at hlarge hsmall
  omega

/-- The text of a finite number denotes a decimal number that is rounded to it. -/
theorem exists_text (hf : f = .single ∨ f = .double) (h : f.Holds m e) (negative : Bool) :
    ∃ t : DecimalText, t.negative = negative ∧ t.text = f.text (.finite negative m e) ∧
      f.Rounds negative t.numeral.value (.finite negative m e) := by
  obtain ⟨hp, hexp⟩ : 0 < f.precision ∧ 1 < f.exponentBits := by
    rcases hf with rfl | rfl <;> decide
  rcases Nat.eq_zero_or_pos m with rfl | hm
  · refine ⟨⟨negative, ['0'], [], [], isDigits_zero, .none, .none⟩, rfl, ?_, ?_⟩
    · rw [Format.text, if_pos rfl]
      cases negative <;> rfl
    · have hvalue : (⟨['0'] ++ [], 0, 0⟩ : Numeral).value = 0 := by
        rw [Numeral.value]
        exact mul_eq_zero_of_left (Nat.cast_eq_zero.2 rfl) _
      rw [h.eq_minExponent]
      show f.Rounds negative (⟨['0'] ++ [], 0, 0⟩ : Numeral).value _
      rw [hvalue]
      exact rounds_zero hp hexp le_rfl (by positivity)
  · obtain ⟨d, k, hd, hin, hshortest⟩ := exists_shortest hf .up h hm
    obtain ⟨n, hnegative, hrendering, hvalue, hn⟩ := DecimalText.exists_rendering negative hd k
    rw [← hvalue] at hin
    have hexponent := natAbs_lt_of_bounds hf h hm hin hn.bounds.1 hn.bounds.2
    obtain ⟨t, hnegative', htext, hsame, -⟩ := hn.exists_layout hexponent f.guaranteedDigits
    refine ⟨t, hnegative'.trans hnegative, ?_, hsame ▸ hin.rounds hp h⟩
    rw [htext, Format.text, if_neg hm.ne', hshortest, hrendering]

/-- The text of a finite number is read as the number, also with its sign and if it is zero; and no
space would be taken from it. -/
theorem parse?_text (hf : f = .single ∨ f = .double) (h : f.Holds m e) (negative : Bool) :
    f.parse? (f.text (.finite negative m e)) = some (.finite negative m e) ∧
      trim (f.text (.finite negative m e)) = f.text (.finite negative m e) := by
  have hp : 0 < f.precision := by rcases hf with rfl | rfl <;> decide
  obtain ⟨t, hnegative, htext, hround⟩ := exists_text hf h negative
  have hnearest := t.rounds_nearest hf
  rw [hnegative] at hnearest
  rw [← htext]
  refine ⟨?_, trim_of_forall t.isSpace_of_mem_text⟩
  rw [t.parse?_text, hnegative, hnearest.unique hp hround]

end Format

end Number

namespace Eval

open Number

/-! ### Parsing a text -/

theorem parse_floatText {x : Float} (h : x.isFinite = true) :
    parse (floatText x) .double = .ok (.double x) := by
  obtain ⟨s, m, e, hx⟩ := exists_finite h
  obtain ⟨hparse, htrim⟩ := Format.parse?_text (Or.inr rfl)
    (Format.holds_of_decode (by decide) (by decide) hx) s
  have hself := toFloat_ofFloat (unpacked_isNaN_of_isFinite h)
  rw [hx] at hself
  rw [parse, floatText, String.toList_ofList, hx, htrim, float?, hparse, Option.map_some, hself]
  rfl

theorem parse_float32Text {x : Float32} (h : x.isFinite = true) :
    parse (float32Text x) .single = .ok (.single x) := by
  obtain ⟨s, m, e, hx⟩ := exists_finite32 h
  obtain ⟨hparse, htrim⟩ := Format.parse?_text (Or.inl rfl)
    (Format.holds_of_decode (by decide) (by decide) hx) s
  have hself := toFloat32_ofFloat32 (unpacked_isNaN_of_isFinite h)
  rw [hx] at hself
  rw [parse, float32Text, String.toList_ofList, hx, htrim, float32?, hparse, Option.map_some, hself]
  rfl

/-- A number that is no NaN equals itself. -/
theorem equal_self {n : Number} (h : n.isNaN = false) :
    binaryOn .equal false (.number n) (.number n) = .ok (.boolean true) :=
  congrArg (fun b => Except.ok (Value.boolean b)) (same_iff.2 ⟨rfl, h, h, rfl⟩)

theorem invoke_toText (v : Value) (hv : v.isNull = false) (given : Option Regex) :
    invoke .toText [v] given = .ok (.string v.text) := by
  cases v with
  | null => cases hv
  | _ => rfl

theorem invoke_parseNumber (k : NumericKind) (text : String) (given : Option Regex) :
    invoke (.parseNumber k) [.string text] given = parse text k := by
  show parse (String.ofList text.toList) k = _
  rw [String.ofList_toList]

/-- The layout of a rendering denotes the number of the rendering and no other, whatever its digits are;
whether it has an exponent depends on the exponent of the rendering alone.  And the text of a finite
number of either size is parsed as that number, which equals itself. -/
theorem layout_keeps_number (given : Option Regex) :
    (∀ (n : DecimalText) (guaranteed : Nat), n.IsRendering →
      (exponentValue n.exponent).natAbs < 2 ^ 31 - 1 →
      ∃ t : DecimalText, Format.layout n.text guaranteed = t.text ∧
        (∀ q, Denotes t.text q ↔ q = n.value) ∧
        t.IsLaidOut (exponentValue n.exponent) guaranteed) ∧
    (∀ x : Float, x.isFinite = true → ∃ text,
      invoke .toText [.double x] given = .ok (.string text) ∧
        invoke (.parseNumber .double) [.string text] given = .ok (.double x) ∧
        binaryOn .equal false (.double x) (.double x) = .ok (.boolean true)) ∧
    (∀ x : Float32, x.isFinite = true → ∃ text,
      invoke .toText [.single x] given = .ok (.string text) ∧
        invoke (.parseNumber .single) [.string text] given = .ok (.single x) ∧
        binaryOn .equal false (.single x) (.single x) = .ok (.boolean true)) := by
  refine ⟨fun n guaranteed hn hexponent => ?_, fun x hx => ?_, fun x hx => ?_⟩
  · obtain ⟨t, hnegative, htext, hsame, hlaid⟩ := hn.exists_layout (by omega) guaranteed
    have hvalue : t.value = n.value := by
      rw [DecimalText.value, DecimalText.value, hnegative, hsame]
    exact ⟨t, htext.symm, fun q => hvalue ▸ t.denotes_iff q, hlaid⟩
  · exact ⟨floatText x, invoke_toText (.double x) rfl given,
      (invoke_parseNumber .double _ given).trans (parse_floatText hx),
      equal_self (unpacked_isNaN_of_isFinite hx)⟩
  · exact ⟨float32Text x, invoke_toText (.single x) rfl given,
      (invoke_parseNumber .single _ given).trans (parse_float32Text hx),
      equal_self (unpacked_isNaN_of_isFinite hx)⟩

/-- The rendering `-2.50e-7`. -/
def smallRendering : DecimalText where
  negative := true
  whole := ['2']
  fraction := ['.', '5', '0']
  exponent := ['e', '-', '7']
  isDigits := ⟨List.cons_ne_nil _ _, List.forall_mem_singleton.2 rfl⟩
  isFraction := .some ⟨List.cons_ne_nil _ _, List.all_eq_true.1 rfl⟩
  isExponent := .signed rfl rfl ⟨List.cons_ne_nil _ _, List.forall_mem_singleton.2 rfl⟩

/-- The rendering loses a zero and gets one, and a tenth is read back in both sizes. -/
theorem layout_keeps_number_small :
    (smallRendering.IsRendering ∧ (exponentValue smallRendering.exponent).natAbs < 2 ^ 31 - 1) ∧
      Format.layout "-2.50e-7".toList 15 = "-2.5E-07".toList ∧
      Denotes "-2.5E-07".toList (-(1 / 4000000)) ∧
      ((0.1 : Float).isFinite = true ∧ ∃ text,
        invoke .toText [.double 0.1] none = .ok (.string text) ∧
          invoke (.parseNumber .double) [.string text] none = .ok (.double 0.1)) ∧
      ((0.1 : Float32).isFinite = true ∧ ∃ text,
        invoke .toText [.single 0.1] none = .ok (.string text) ∧
          invoke (.parseNumber .single) [.string text] none = .ok (.single 0.1)) := by
  have hrendering : smallRendering.IsRendering := ⟨⟨'2', by decide, rfl⟩, _, rfl⟩
  have hexponent : (exponentValue smallRendering.exponent).natAbs < 2 ^ 31 - 1 := by decide
  have hlayout : Format.layout "-2.50e-7".toList 15 = "-2.5E-07".toList := by decide
  have hvalue : smallRendering.value = -(1 / 4000000) := by
    have hshown : smallRendering.value = -((250 : Nat) * 10 ^ (-7 - 2 : Int)) := rfl
    rw [hshown]
    norm_num
  have hdouble : (0.1 : Float).isFinite = true := by decide
  have hsingle : (0.1 : Float32).isFinite = true := by decide
  obtain ⟨hkeeps, hfloat, hfloat32⟩ := layout_keeps_number none
  obtain ⟨t, htext, hdenotes, -⟩ := hkeeps smallRendering 15 hrendering hexponent
  obtain ⟨text, hwritten, hread, -⟩ := hfloat 0.1 hdouble
  obtain ⟨text32, hwritten32, hread32, -⟩ := hfloat32 0.1 hsingle
  refine ⟨⟨hrendering, hexponent⟩, hlayout, ?_, ⟨hdouble, text, hwritten, hread⟩,
    hsingle, text32, hwritten32, hread32⟩
  have hsmall : Format.layout smallRendering.text 15 = "-2.5E-07".toList := hlayout
  rw [← hsmall, htext, hdenotes, hvalue]

end Eval

end Elementwise
