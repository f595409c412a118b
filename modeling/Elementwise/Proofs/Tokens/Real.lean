import Elementwise.Proofs.Number.Machine
import Elementwise.Proofs.Number.Nearest
import Elementwise.Proofs.Tokens.Reading

/-!
Literals in floating point.  A numeral with a fraction, an exponent or the suffix of a size is read as
the number of that size which is nearest to what it denotes, however many digits it has.  No numeral is
out of range: what lies beyond the largest number by half a unit or more is read as infinity.
-/

namespace Elementwise

open Text Number

namespace Number

/-! ### Floating point among the numbers -/

/-- The number that a number in floating point stands for, with its size. -/
def binary? : Number → Option (Format × Binary)
  | single x => some (.single, .ofFloat32 x)
  | double x => some (.double, .ofFloat x)
  | _ => none

theorem ofFloat32_of_rounds {s : Bool} {q : ℚ} {b : Binary} (h : Format.single.Rounds s q b) :
    Binary.ofFloat32 b.toFloat32 = b := by
  cases h with
  | finite _ hholds => exact ofFloat32_toFloat32 hholds
  | infinite => cases s <;> decide

theorem ofFloat_of_rounds {s : Bool} {q : ℚ} {b : Binary} (h : Format.double.Rounds s q b) :
    Binary.ofFloat b.toFloat = b := by
  cases h with
  | finite _ hholds => exact ofFloat_toFloat hholds
  | infinite => cases s <;> decide

end Number

namespace Token

/-! ### Numerals -/

/-- The number that an exponent with its letter denotes. -/
def exponentValue : List Char → Int
  | _ :: '-' :: ds => -(ofDigits ds : Int)
  | _ :: '+' :: ds => ofDigits ds
  | _ :: ds => ofDigits ds
  | [] => 0

theorem IsFraction.isAsciiDigit_of_mem_tail {fraction : List Char} (h : IsFraction fraction) :
    ∀ d ∈ fraction.tail, isAsciiDigit d = true := by
  cases h with
  | none => exact List.forall_mem_nil _
  | some hds => exact hds.2

theorem isAsciiDigit_of_mem_append {whole fraction : List Char} (hwhole : IsDigits whole)
    (hfraction : IsFraction fraction) : ∀ d ∈ whole ++ fraction.tail, isAsciiDigit d = true := by
  intro d hd
  rcases List.mem_append.1 hd with hd | hd
  · exact hwhole.2 d hd
  · exact hfraction.isAsciiDigit_of_mem_tail d hd

theorem IsExponent.isExponentLetter_head {letter : Char} {cs : List Char} (h : IsExponent (letter :: cs)) :
    isExponentLetter letter = true := by
  cases h with
  | unsigned hletter | signed hletter => exact hletter

/-- Behind the whole digits and the fraction an exponent ends them. -/
theorem IsExponent.ends {p : Char → Bool} {exponent : List Char} (h : IsExponent exponent)
    (he : p 'e' = false) (hE : p 'E' = false) : Stops p exponent := by
  have hstops : Stops p (exponent ++ []) := h.stops (fun _ _ hc => nomatch hc) he hE
  rwa [List.append_nil] at hstops

theorem IsExponent.lowerExponent {exponent : List Char} (h : IsExponent exponent) :
    IsExponent (lowerExponent exponent) := by
  cases h with
  | none => exact .none
  | unsigned _ hds => exact .unsigned rfl hds
  | signed _ hsign hds => exact .signed rfl hsign hds

theorem exponentValue_unsigned {ds : List Char} (hds : IsDigits ds) (letter : Char) :
    exponentValue (letter :: ds) = ofDigits ds := by
  unfold exponentValue
  split
  · rename_i heq
    cases heq
    cases hds.2 '-' List.mem_cons_self
  · rename_i heq
    cases heq
    cases hds.2 '+' List.mem_cons_self
  · rename_i heq
    cases heq
    rfl
  · rename_i heq
    cases heq

/-- What stands behind the letter of an exponent is read as the number that it denotes. -/
theorem IsExponent.integer?_tail {exponent : List Char} (h : IsExponent exponent)
    (hne : exponent ≠ []) : Text.integer? exponent.tail = some (exponentValue exponent) := by
  cases h with
  | none => exact absurd rfl hne
  | @unsigned letter ds _ hds =>
      rw [List.tail_cons, exponentValue_unsigned hds, integer?_of_all hds.1 (List.all_eq_true.2 hds.2)]
  | @signed letter sign ds _ hsign hds =>
      have hnatural := natural?_of_all hds.1 (List.all_eq_true.2 hds.2)
      simp only [isSign, Bool.or_eq_true, beq_iff_eq] at hsign
      obtain rfl | rfl := hsign <;> simp [Text.integer?, exponentValue, hnatural]

/-- The letter of an exponent does not count. -/
theorem IsExponent.exponentValue_lowerExponent {exponent : List Char} (h : IsExponent exponent) :
    exponentValue (Token.lowerExponent exponent) = exponentValue exponent := by
  cases exponent with
  | nil => rfl
  | cons letter ds =>
      have hlower := h.lowerExponent.integer?_tail (List.cons_ne_nil _ _)
      exact Option.some.inj (hlower.symm.trans (h.integer?_tail (List.cons_ne_nil _ _)))

/-- The suffixes of numbers in floating point in lower case. -/
def realSuffixes : List (List Char) :=
  [[], ['f'], ['d']]

/-- A numeral in floating point: it has a fraction, an exponent or the suffix of a size. -/
structure RealNumeral where
  whole : List Char
  fraction : List Char
  exponent : List Char
  suffix : List Char
  isDigits : IsDigits whole
  isFraction : IsFraction fraction
  isExponent : IsExponent exponent
  suffix_mem : suffix.map asciiLower ∈ realSuffixes
  isReal : fraction = [] → exponent = [] → suffix ≠ []

namespace RealNumeral

def text (n : RealNumeral) : List Char :=
  n.whole ++ n.fraction ++ n.exponent ++ n.suffix

/-- The size of the number: single precision with the suffix `f`, else double precision. -/
def format (n : RealNumeral) : Format :=
  if n.suffix.map asciiLower = ['f'] then .single else .double

/-- The number that a numeral denotes. -/
def value (n : RealNumeral) : ℚ :=
  (ofDigits n.whole + ofDigits n.fraction.tail / 10 ^ n.fraction.tail.length) *
    10 ^ exponentValue n.exponent

/-- The digits of the numeral and where the point stands among them. -/
def numeral (n : RealNumeral) : Numeral :=
  ⟨n.whole ++ n.fraction.tail, n.fraction.tail.length, exponentValue n.exponent⟩

variable (n : RealNumeral)

theorem value_numeral : n.numeral.value = n.value := by
  have hten : (10 : ℚ) ≠ 0 := by norm_num
  rw [Numeral.value, numeral, value, ofDigits_append, zpow_sub₀ hten, zpow_natCast]
  push_cast
  field_simp

theorem isAsciiDigit_of_mem_numeral : ∀ d ∈ n.numeral.digits, isAsciiDigit d = true :=
  isAsciiDigit_of_mem_append n.isDigits n.isFraction

end RealNumeral

/-! ### Reading numerals -/

variable {whole fraction exponent : List Char}

/-- The digits behind the point that a text starts with, and what comes after them. -/
def pointPart : List Char → List Char × List Char
  | '.' :: cs => (cs.takeWhile isAsciiDigit, cs.dropWhile isAsciiDigit)
  | cs => ([], cs)

theorem pointPart_append (hfraction : IsFraction fraction) (hexponent : IsExponent exponent) :
    pointPart (fraction ++ exponent) = (fraction.tail, exponent) := by
  cases hfraction with
  | none =>
      rw [List.nil_append, pointPart]
      · rfl
      · rintro cs rfl
        cases hexponent.isExponentLetter_head
  | some hds =>
      have hstops := hexponent.ends (p := isAsciiDigit) rfl rfl
      exact Prod.ext (hstops.takeWhile_append hds.2) (hstops.dropWhile_append hds.2)

theorem parse?_eq (cs : List Char) : Numeral.parse? cs =
    let whole := cs.takeWhile isAsciiDigit
    let point := pointPart (cs.dropWhile isAsciiDigit)
    if whole.isEmpty && point.1.isEmpty then none
    else
      match point.2 with
      | [] => some ⟨whole ++ point.1, point.1.length, 0⟩
      | c :: exponent =>
        if c = 'e' || c = 'E' then
          (Numeral.exponent? exponent).map fun e => ⟨whole ++ point.1, point.1.length, e⟩
        else none :=
  rfl

/-- A numeral is parsed into its digits and its exponent. -/
theorem parse?_append (hwhole : IsDigits whole) (hfraction : IsFraction fraction)
    (hexponent : IsExponent exponent) :
    Numeral.parse? (whole ++ fraction ++ exponent) =
      some ⟨whole ++ fraction.tail, fraction.tail.length, exponentValue exponent⟩ := by
  have hdigit : Stops isAsciiDigit (fraction ++ exponent) :=
    hfraction.stops (fun _ => hexponent.ends rfl rfl) rfl
  have hnonempty : (whole.isEmpty && fraction.tail.isEmpty) = false := by
    rw [List.isEmpty_eq_false_iff.2 hwhole.1, Bool.false_and]
  rw [List.append_assoc, parse?_eq, hdigit.takeWhile_append hwhole.2,
    hdigit.dropWhile_append hwhole.2, pointPart_append hfraction hexponent]
  dsimp only
  rw [hnonempty, if_neg Bool.false_ne_true]
  cases exponent with
  | nil => rfl
  | cons letter ds =>
      have htail := hexponent.integer?_tail (List.cons_ne_nil _ _)
      have hletter := hexponent.isExponentLetter_head
      rw [List.tail_cons] at htail
      dsimp only
      refine (if_pos hletter).trans ?_
      rw [Numeral.exponent?, htail]
      rfl

/-- A text that starts with a digit behind its sign is no word. -/
theorem parse?_signed {d : Char} (hd : isAsciiDigit d = true) (f : Format) (negative : Bool)
    (cs : List Char) : f.parse? (Format.signed negative (d :: cs)) =
      (Numeral.parse? (d :: cs)).map fun n => n.nearest f negative := by
  have hlower : d.toLower = d := by
    have hall : ∀ n < 58, 48 ≤ n → (Char.ofNat n).toLower = Char.ofNat n := by decide +kernel
    obtain ⟨hfirst, hlast⟩ := toNat_of_isAsciiDigit hd
    have hlower := hall d.toNat (by omega) hfirst
    rwa [Char.ofNat_toNat] at hlower
  have hword {w : Char} (hw : isAsciiDigit w = false) (ws : List Char) :
      ((d :: cs).map Char.toLower == w :: ws) = false := by
    refine beq_eq_false_iff_ne.2 fun heq => ?_
    rw [List.map_cons, hlower] at heq
    rw [(List.cons.inj heq).1, hw] at hd
    cases hd
  have hinf : ((d :: cs).map Char.toLower == "inf".toList) = false := hword rfl _
  have hinfinity : ((d :: cs).map Char.toLower == "infinity".toList) = false := hword rfl _
  have hnan : ((d :: cs).map Char.toLower == "nan".toList) = false := hword rfl _
  cases negative with
  | true =>
      rw [Format.signed, if_pos rfl, Format.parse?, hinf, hinfinity, hnan]
      rfl
  | false =>
      rw [Format.signed, if_neg Bool.false_ne_true, Format.parse?]
      · rw [hinf, hinfinity, hnan]
        rfl
      · rintro _ heq
        cases heq
        cases hd
      · rintro _ heq
        cases heq
        cases hd

/-- A number is parsed into its sign and its numeral, which is rounded. -/
theorem parse?_parts (hwhole : IsDigits whole) (hfraction : IsFraction fraction)
    (hexponent : IsExponent exponent) (f : Format) (negative : Bool) :
    f.parse? (Format.signed negative (whole ++ fraction ++ exponent)) =
      some ((⟨whole ++ fraction.tail, fraction.tail.length, exponentValue exponent⟩ :
        Numeral).nearest f negative) := by
  obtain ⟨d, ds, rfl⟩ := List.exists_cons_of_ne_nil hwhole.1
  have hparse := parse?_append hwhole hfraction hexponent
  rw [List.cons_append, List.cons_append] at hparse ⊢
  rw [parse?_signed (hwhole.2 d List.mem_cons_self), hparse]
  rfl

namespace RealNumeral

variable (n : RealNumeral)

/-- The numeral without its suffix, as it is handed on with its letter in lower case. -/
def digits (n : RealNumeral) : List Char :=
  n.whole ++ n.fraction ++ lowerExponent n.exponent

theorem parse?_digits (f : Format) : f.parse? n.digits = some (n.numeral.nearest f false) := by
  rw [numeral, ← n.isExponent.exponentValue_lowerExponent]
  exact parse?_parts n.isDigits n.isFraction n.isExponent.lowerExponent f false

theorem fold_suffix : fold (String.ofList n.suffix) = String.ofList (n.suffix.map asciiLower) :=
  Token.fold_suffix (by decide) n.suffix_mem

theorem isSuffix : IsSuffix n.suffix := by
  have hall : (realSuffixes.all fun s => s.all suffixLetters.contains) = true := by decide
  have hletters := List.all_eq_true.1 (List.all_eq_true.1 hall _ n.suffix_mem)
  exact fun c hc => List.contains_iff_mem.1 (hletters _ (List.mem_map_of_mem hc))

/-- Whether the numeral has a fraction or an exponent. -/
def hasPart (n : RealNumeral) : Bool :=
  !(n.fraction.isEmpty && n.exponent.isEmpty)

theorem hasPart_of_suffix (h : n.suffix = []) : n.hasPart = true := by
  rw [hasPart, Bool.not_eq_true', Bool.and_eq_false_imp]
  intro hfraction
  rw [List.isEmpty_eq_false_iff]
  exact fun hexponent => n.isReal (List.isEmpty_iff.1 hfraction) hexponent h

theorem rounds_nearest (hf : n.format = .single ∨ n.format = .double) :
    n.format.Rounds false n.value (n.numeral.nearest n.format false) := by
  rw [← value_numeral]
  exact Numeral.rounds_nearest hf n.isAsciiDigit_of_mem_numeral

/-- The numeral is a literal of its size, which is rounded from what the numeral denotes. -/
theorem decimalLiteral?_digits : ∃ x b,
    decimalLiteral? n.digits n.hasPart (fold (String.ofList n.suffix)) = some x ∧
      x.binary? = some (n.format, b) ∧ n.format.Rounds false n.value b := by
  have hmem := n.suffix_mem
  simp only [realSuffixes, List.mem_cons, List.not_mem_nil, or_false] at hmem
  by_cases hsingle : n.suffix.map asciiLower = ['f']
  · have hformat : n.format = .single := if_pos hsingle
    have hround := n.rounds_nearest (Or.inl hformat)
    have hliteral : decimalLiteral? n.digits n.hasPart (fold (String.ofList n.suffix)) =
        (float32? n.digits).map .single := by
      rw [fold_suffix, hsingle]
      rfl
    rw [hformat] at hround ⊢
    rw [hliteral, float32?, parse?_digits]
    exact ⟨_, _, rfl, by rw [binary?, ofFloat32_of_rounds hround], hround⟩
  · have hformat : n.format = .double := if_neg hsingle
    have hround := n.rounds_nearest (Or.inr hformat)
    have hliteral : decimalLiteral? n.digits n.hasPart (fold (String.ofList n.suffix)) =
        (float? n.digits).map .double := by
      rw [fold_suffix]
      rcases hmem with hnone | hfloat | hdouble
      · rw [hnone, hasPart_of_suffix _ (List.map_eq_nil_iff.1 hnone)]
        rfl
      · exact absurd hfloat hsingle
      · rw [hdouble]
        rfl
    rw [hformat] at hround ⊢
    rw [hliteral, float?, parse?_digits]
    exact ⟨_, _, rfl, by rw [binary?, ofFloat_of_rounds hround], hround⟩

theorem numberPart_text {rest : List Char} (hrest : Stops isNamePart rest) :
    numberPart (n.text ++ rest) =
      (n.text, decimalLiteral? n.digits n.hasPart (fold (String.ofList n.suffix))) := by
  have hpart := numberPart_append n.isDigits n.isFraction n.isExponent n.isSuffix hrest
    fun hfraction hexponent hsuffix => absurd hsuffix (n.isReal hfraction hexponent)
  rw [text, List.append_assoc, List.append_assoc, List.append_assoc]
  exact hpart

/-- A numeral is read as one token, with a number that is rounded from what it denotes. -/
theorem exists_readsAs : ∃ x b, x.binary? = some (n.format, b) ∧ n.format.Rounds false n.value b ∧
    ∀ offset rest, Stops isNamePart rest →
      ReadsAs offset (n.text ++ rest) ⟨.number x, String.ofList n.text, offset⟩ rest := by
  obtain ⟨x, b, hliteral, hx, hround⟩ := n.decimalLiteral?_digits
  obtain ⟨d, ds, hcons⟩ := List.exists_cons_of_ne_nil n.isDigits.1
  have htext : n.text = d :: (ds ++ n.fraction ++ n.exponent ++ n.suffix) := by
    rw [text, hcons]
    rfl
  refine ⟨x, b, hx, hround, fun offset rest hrest => ?_⟩
  have hpart := n.numberPart_text hrest
  rw [hliteral, htext] at hpart
  rw [htext]
  exact readsAs_number (n.isDigits.2 d (hcons ▸ List.mem_cons_self)) hpart

/-- The tokens of a numeral that is out of range. -/
theorem exists_infinite (h : n.format.overflow ≤ n.value) :
    ∃ t ∈ (scan (String.ofList n.text)).tokens, ∃ x,
      t.lexeme = .number x ∧ x.binary? = some (n.format, .infinite false) := by
  obtain ⟨x, b, hx, hround, hreads⟩ := n.exists_readsAs
  have hscan := hreads 0 [] (fun _ h => nomatch h) n.text.length
  rw [List.append_nil] at hscan
  refine ⟨⟨.number x, String.ofList n.text, 0⟩, ?_, x, rfl, ?_⟩
  · rw [scan, String.length_ofList, String.toList_ofList, hscan]
    exact List.mem_cons_self
  · cases hround with
    | finite hlt => exact absurd h (not_le.2 hlt)
    | infinite => exact hx

end RealNumeral

/-! ### Numerals from tokens -/

variable {x : Number} {f : Format} {b : Binary} {m : Nat} {cs : List Char} {suffix : String}

theorem binary?_of_integerLiteral? (h : integerLiteral? m suffix = some x) : x.binary? = none := by
  obtain ⟨k, -, hk⟩ := List.exists_of_findSome?_eq_some h
  obtain ⟨w, -, rfl⟩ := Option.map_eq_some_iff.1 hk
  rfl

theorem binary?_of_hexLiteral? (h : hexLiteral? cs suffix = some x) : x.binary? = none := by
  rw [hexLiteral?] at h
  split at h
  · cases h
  · split at h
    · obtain ⟨d, -, rfl⟩ := Option.map_eq_some_iff.1 h
      rfl
    · exact binary?_of_integerLiteral? h

/-- A literal in floating point has the suffix of a size, or none and a fraction or an exponent. -/
theorem suffix_of_decimalLiteral? {real : Bool} (h : decimalLiteral? cs real suffix = some x)
    (hx : x.binary? ≠ none) : suffix = "f" ∨ suffix = "d" ∨ suffix = "" ∧ real = true := by
  unfold decimalLiteral? at h
  split at h
  · exact Or.inl rfl
  · exact Or.inr (Or.inl rfl)
  · obtain ⟨d, -, rfl⟩ := Option.map_eq_some_iff.1 h
    exact absurd rfl hx
  · split at h
    · rename_i hreal
      split at h
      · rename_i hsuffix
        exact Or.inr (Or.inr ⟨hsuffix, hreal⟩)
      · cases h
    · exact absurd (binary?_of_integerLiteral? h) hx

theorem suffix_mem_of_fold {suffix : List Char} (h : fold (String.ofList suffix) = "f" ∨
    fold (String.ofList suffix) = "d" ∨ fold (String.ofList suffix) = "") :
    suffix.map asciiLower ∈ realSuffixes := by
  obtain h | h | h := h
  · rw [map_asciiLower_of_fold ['f'] (List.forall_mem_singleton.2 ⟨rfl, rfl⟩) h]
    decide
  · rw [map_asciiLower_of_fold ['d'] (List.forall_mem_singleton.2 ⟨rfl, rfl⟩) h]
    decide
  · rw [map_asciiLower_of_fold [] (List.forall_mem_nil _) h]
    decide

/-- What is read as a number in floating point is a numeral, and the number is rounded from what the
numeral denotes. -/
theorem exists_numeral_of_numberPart {c : Char} {spelling : List Char} (hc : isAsciiDigit c = true)
    (h : numberPart (c :: cs) = (spelling, some x)) (hx : x.binary? = some (f, b)) :
    ∃ n : RealNumeral, spelling = n.text ∧ f = n.format ∧ f.Rounds false n.value b := by
  have hbinary : x.binary? ≠ none := by
    rw [hx]
    exact Option.some_ne_none _
  rw [numberPart] at h
  split at h
  · exact absurd (binary?_of_hexLiteral? (Prod.mk.inj h).2) hbinary
  dsimp only at h
  obtain ⟨rfl, hliteral⟩ := Prod.mk.inj h
  have hdigits : IsDigits ((c :: cs).takeWhile isAsciiDigit) := by
    refine isDigits_takeWhile ?_
    rw [List.takeWhile_cons_of_pos hc]
    exact List.cons_ne_nil _ _
  have hsuffix := suffix_of_decimalLiteral? hliteral hbinary
  have hfraction := isFraction_fractionPart ((c :: cs).dropWhile isAsciiDigit)
  generalize fractionPart ((c :: cs).dropWhile isAsciiDigit) = fraction at hliteral hsuffix hfraction ⊢
  generalize ((c :: cs).dropWhile isAsciiDigit).drop fraction.length = others at hliteral hsuffix ⊢
  have hexponent := isExponent_exponentPart others
  generalize exponentPart others = exponent at hliteral hsuffix hexponent ⊢
  generalize (others.drop exponent.length).takeWhile isNamePart = suffix at hliteral hsuffix ⊢
  have hreal : fraction = [] → exponent = [] → suffix ≠ [] := by
    rintro rfl rfl rfl
    have hempty : fold (String.ofList []) = "" := rfl
    rw [hempty] at hsuffix
    obtain h | h | ⟨-, h⟩ := hsuffix
    · exact absurd h (by decide)
    · exact absurd h (by decide)
    · cases h
  let n : RealNumeral := ⟨_, fraction, exponent, suffix, hdigits, hfraction, hexponent,
    suffix_mem_of_fold (hsuffix.imp id (Or.imp id And.left)), hreal⟩
  obtain ⟨y, b', hy, hbinary', hround⟩ := n.decimalLiteral?_digits
  have heq : x = y := Option.some.inj (hliteral.symm.trans hy)
  rw [heq, hbinary'] at hx
  cases hx
  exact ⟨n, rfl, rfl, hround⟩

/-- The numbers in floating point among the tokens of a text are spelled as numerals. -/
theorem forall_exists_numeral (text : String) : ∀ t ∈ (scan text).tokens, ∀ x f b,
    t.lexeme = .number x → x.binary? = some (f, b) →
      ∃ n : RealNumeral, t.spelling.toList = n.text ∧ f = n.format ∧ f.Rounds false n.value b := by
  refine forall_mem_scanFrom (fun offset c cs t rest hnext x f b hnumber hx => ?_) _
  obtain ⟨hc, hpart⟩ := next_eq_number hnext hnumber
  exact exists_numeral_of_numberPart hc hpart hx

/-- A numeral in floating point is read as one token, whose number is the nearest of its size to what
the numeral denotes: it is finite below half a unit beyond the largest number, and else infinite.  The
numbers in floating point among the tokens of a text all come from such numerals. -/
theorem real_literal (n : RealNumeral) (text : String) :
    (∃ x b, x.binary? = some (n.format, b) ∧
      n.format.Rounds false n.value b ∧ (b.isFinite = true ↔ n.value < n.format.overflow) ∧
      ∀ offset rest, Stops isNamePart rest →
        ReadsAs offset (n.text ++ rest) ⟨.number x, String.ofList n.text, offset⟩ rest) ∧
    ∀ t ∈ (scan text).tokens, ∀ x f b, t.lexeme = .number x → x.binary? = some (f, b) →
      ∃ n : RealNumeral, t.spelling.toList = n.text ∧ f = n.format ∧ f.Rounds false n.value b := by
  refine ⟨?_, forall_exists_numeral text⟩
  obtain ⟨x, b, hx, hround, hreads⟩ := n.exists_readsAs
  exact ⟨x, b, hx, hround, hround.isFinite_iff, hreads⟩

/-- One and a half. -/
def threeHalves : RealNumeral where
  whole := ['1']
  fraction := ['.', '5']
  exponent := []
  suffix := []
  isDigits := ⟨List.cons_ne_nil _ _, List.forall_mem_singleton.2 rfl⟩
  isFraction := .some ⟨List.cons_ne_nil _ _, List.forall_mem_singleton.2 rfl⟩
  isExponent := .none
  suffix_mem := by decide
  isReal h := nomatch h

theorem real_literal_threeHalves : Stops isNamePart ['+'] ∧ ∃ x b,
    x.binary? = some (.double, b) ∧ b.isFinite = true ∧
      ReadsAs 0 ['1', '.', '5', '+'] ⟨.number x, "1.5", 0⟩ ['+'] ∧
      ⟨.number x, "1.5", 0⟩ ∈ (scan "1.5+").tokens ∧
      ∃ n : RealNumeral, "1.5".toList = n.text ∧ Format.double.Rounds false n.value b := by
  have hrest : Stops isNamePart ['+'] := by
    intro c hc
    cases hc
    rfl
  have hlt : threeHalves.value < threeHalves.format.overflow := by
    have hvalue : threeHalves.value = (1 + 5 / 10 ^ 1) * 10 ^ (0 : Int) := rfl
    have hone : (1 : ℚ) ≤ 2 ^ Format.double.maxExponent := one_le_zpow₀ one_le_two (by decide)
    calc threeHalves.value < 2 ^ 53 - 1 / 2 := by rw [hvalue]; norm_num
      _ ≤ Format.double.overflow := le_mul_of_one_le_right (by norm_num) hone
  obtain ⟨x, b, hx, hround, hfinite, hreads⟩ := (real_literal threeHalves "1.5+").1
  have hmem : ⟨.number x, "1.5", 0⟩ ∈ (scan "1.5+").tokens := by
    have hscan := hreads 0 ['+'] hrest 4
    have htokens : (scan "1.5+").tokens = _ := congrArg Lexed.tokens hscan
    rw [htokens]
    exact List.mem_cons_self
  obtain ⟨n, htext, hformat, hround⟩ := (real_literal threeHalves "1.5+").2 _ hmem x _ b rfl hx
  exact ⟨hrest, x, b, hx, hfinite.2 hlt, hreads 0 ['+'] hrest, hmem, n, htext, hround⟩

/-- Ten to the power of 400. -/
def tenTo400 : RealNumeral where
  whole := ['1']
  fraction := []
  exponent := ['e', '4', '0', '0']
  suffix := []
  isDigits := ⟨List.cons_ne_nil _ _, List.forall_mem_singleton.2 rfl⟩
  isFraction := .none
  isExponent := .unsigned rfl ⟨List.cons_ne_nil _ _, List.all_eq_true.1 rfl⟩
  suffix_mem := by decide
  isReal _ h := nomatch h

/-- A literal beyond the largest number is read as infinity. -/
theorem real_literal_infinite : ∃ t ∈ (scan "1e400").tokens, ∃ x,
    t.lexeme = .number (.double x) ∧ Binary.ofFloat x = .infinite false := by
  have hle : tenTo400.format.overflow ≤ tenTo400.value := by
    have hvalue : tenTo400.value = (1 + 0 / 10 ^ 0) * 10 ^ (400 : Int) := rfl
    rw [hvalue, zero_div, add_zero, one_mul]
    exact (Numeral.bounds_of_format (Or.inr rfl)).1
  obtain ⟨t, ht, x, hx, hbinary⟩ := tenTo400.exists_infinite hle
  refine ⟨t, ht, ?_⟩
  cases x with
  | double x => exact ⟨x, hx, (Prod.mk.inj (Option.some.inj hbinary)).2⟩
  | single => cases hbinary
  | char | word | decimal => cases hbinary

end Token

end Elementwise
