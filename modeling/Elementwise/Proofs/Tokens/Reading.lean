import Elementwise.Proofs.Layout.Lexer
import Elementwise.Proofs.Text.Numeral
import Elementwise.Proofs.Value.Guid

/-!
What a text is read as.  A token that stands at the front of a text is read there whatever comes after
it, and reading goes on right behind it.  A number is read from its parts: digits, a fraction, an
exponent and a suffix, of which each ends where a character comes that it cannot go on with.
-/

namespace Elementwise.Token

open Text Number

/-! ### One token after the other -/

/-- The text at the offset is read as the token, and then the rest right behind it is read. -/
def ReadsAs (offset : Nat) (cs : List Char) (t : Token) (rest : List Char) : Prop :=
  ∀ fuel, scanFrom (fuel + 1) offset cs =
    ⟨t :: (scanFrom fuel t.stop rest).tokens, (scanFrom fuel t.stop rest).outcome⟩

/-- No token is read from the text at the offset for the reason given. -/
def FailsAs (offset : Nat) (cs : List Char) (e : LexError) : Prop :=
  ∀ fuel, scanFrom (fuel + 1) offset cs = ⟨[], .error e⟩

variable {offset : Nat} {c : Char} {cs rest : List Char} {t : Token} {e : LexError}

theorem ReadsAs.not_failsAs (h : ReadsAs offset cs t rest) : ¬FailsAs offset cs e := by
  intro hfails
  have htokens := congrArg Lexed.tokens ((h 0).symm.trans (hfails 0))
  cases htokens

theorem readsAs_of_next (hc : isSpace c = false) (h : next offset c cs = .ok (t, rest)) :
    ReadsAs offset (c :: cs) t rest := by
  intro fuel
  have hheads := next_heads h
  have hlength := congrArg List.length hheads.spelled
  rw [List.length_cons, List.length_append, String.length_toList] at hlength
  have hstop : offset + (cs.length + 1 - rest.length) = t.stop := by
    rw [stop, hheads.offset_eq]
    omega
  have hnot : ¬isSpace c = true := by
    rw [hc]
    exact Bool.false_ne_true
  rw [scanFrom, List.takeWhile_cons_of_neg hnot, List.dropWhile_cons_of_neg hnot]
  dsimp only [List.length_nil]
  rw [Nat.add_zero, h]
  dsimp only
  rw [hstop]

theorem failsAs_of_next (hc : isSpace c = false) (h : next offset c cs = .error e) :
    FailsAs offset (c :: cs) e := by
  intro fuel
  have hnot : ¬isSpace c = true := by
    rw [hc]
    exact Bool.false_ne_true
  rw [scanFrom, List.takeWhile_cons_of_neg hnot, List.dropWhile_cons_of_neg hnot]
  dsimp only [List.length_nil]
  rw [Nat.add_zero, h]

/-- What holds of every token that a text can start with holds of all tokens of a text. -/
theorem forall_mem_scanFrom {P : Token → Prop}
    (hP : ∀ offset c cs t rest, next offset c cs = .ok (t, rest) → P t) (fuel : Nat) :
    ∀ t ∈ (scanFrom fuel offset cs).tokens, P t := by
  induction fuel generalizing offset cs with
  | zero => exact List.forall_mem_nil _
  | succ fuel ih =>
      unfold scanFrom
      dsimp only
      split
      · exact List.forall_mem_nil _
      · split
        · exact List.forall_mem_nil _
        · rename_i hnext
          exact List.forall_mem_cons.2 ⟨hP _ _ _ _ _ hnext, ih⟩

/-! ### The parts of a number -/

/-- The text does not start with a character of the class. -/
def Stops (p : Char → Bool) (cs : List Char) : Prop :=
  ∀ c ∈ cs.head?, p c = false

variable {p q : Char → Bool} {part : List Char → List Char} {front : List Char}

theorem Stops.mono (h : Stops q cs) (hpq : ∀ c, q c = false → p c = false) : Stops p cs :=
  fun c hc => hpq c (h c hc)

theorem stops_append (hfront : ∀ c ∈ front, p c = false) (h : front = [] → Stops p rest) :
    Stops p (front ++ rest) := by
  cases front with
  | nil => exact h rfl
  | cons c front =>
      intro d hd
      cases hd
      exact hfront c List.mem_cons_self

theorem Stops.takeWhile_eq_nil (h : Stops p cs) : cs.takeWhile p = [] := by
  cases cs with
  | nil => rfl
  | cons c cs =>
      refine List.takeWhile_cons_of_neg ?_
      rw [h c rfl]
      exact Bool.false_ne_true

theorem Stops.takeWhile_append (h : Stops p rest) (hfront : ∀ c ∈ front, p c = true) :
    (front ++ rest).takeWhile p = front := by
  rw [List.takeWhile_append_of_pos hfront, h.takeWhile_eq_nil, List.append_nil]

theorem Stops.dropWhile_append (h : Stops p rest) (hfront : ∀ c ∈ front, p c = true) :
    (front ++ rest).dropWhile p = rest := by
  rw [← drop_length_takeWhile, h.takeWhile_append hfront, List.drop_left]

theorem Stops.led_eq_nil (h : Stops p cs) : led p part cs = [] := by
  cases cs with
  | nil => rfl
  | cons c cs =>
      rw [led, h c rfl]
      rfl

/-- A part that is read after its leading character. -/
theorem led_append (hc : p c = true) (hne : front ≠ []) (hpart : part (front ++ rest) = front) :
    led p part (c :: front ++ rest) = c :: front := by
  rw [List.cons_append, led, hpart, hc, List.isEmpty_eq_false_iff.2 hne]
  rfl

/-- A part with a leading character is empty or has something behind it. -/
theorem led_cases (p : Char → Bool) (part : List Char → List Char) (cs : List Char) :
    led p part cs = [] ∨
      ∃ c rest, p c = true ∧ part rest ≠ [] ∧ led p part cs = c :: part rest := by
  cases cs with
  | nil => exact Or.inl rfl
  | cons c cs =>
      rw [led]
      split
      · rename_i h
        rw [Bool.and_eq_true, Bool.not_eq_true', List.isEmpty_eq_false_iff] at h
        exact Or.inr ⟨c, cs, h.1, h.2, rfl⟩
      · exact Or.inl rfl

theorem firstOf_of_ne_nil {part' : List Char → List Char} (h : part cs ≠ []) :
    firstOf part part' cs = part cs :=
  if_neg (by rwa [List.isEmpty_iff])

theorem firstOf_of_eq_nil {part' : List Char → List Char} (h : part cs = []) :
    firstOf part part' cs = part' cs :=
  if_pos (List.isEmpty_iff.2 h)

/-- Decimal digits, at least one. -/
def IsDigits (ds : List Char) : Prop :=
  ds ≠ [] ∧ ∀ d ∈ ds, isAsciiDigit d = true

/-- The fraction of a number with its point, or nothing. -/
inductive IsFraction : List Char → Prop where
  | none : IsFraction []
  | some {ds : List Char} (hds : IsDigits ds) : IsFraction ('.' :: ds)

/-- The exponent of a number with its letter, or nothing. -/
inductive IsExponent : List Char → Prop where
  | none : IsExponent []
  | unsigned {letter : Char} {ds : List Char} (hletter : isExponentLetter letter = true)
      (hds : IsDigits ds) : IsExponent (letter :: ds)
  | signed {letter sign : Char} {ds : List Char} (hletter : isExponentLetter letter = true)
      (hsign : isSign sign = true) (hds : IsDigits ds) : IsExponent (letter :: sign :: ds)

variable {whole fraction exponent suffix ds : List Char}

theorem IsDigits.takeWhile_append (h : IsDigits ds) (hrest : Stops isAsciiDigit rest) :
    (ds ++ rest).takeWhile isAsciiDigit = ds :=
  hrest.takeWhile_append h.2

theorem fractionPart_append (h : IsFraction fraction) (hdigit : Stops isAsciiDigit rest)
    (hpoint : fraction = [] → Stops (· == '.') rest) :
    fractionPart (fraction ++ rest) = fraction := by
  rw [fractionPart_eq_led]
  cases h with
  | none => exact (hpoint rfl).led_eq_nil
  | some hds => exact led_append rfl hds.1 (hds.takeWhile_append hdigit)

theorem exponentPart_append (h : IsExponent exponent) (hdigit : Stops isAsciiDigit rest)
    (hletter : exponent = [] → Stops isExponentLetter rest) :
    exponentPart (exponent ++ rest) = exponent := by
  rw [exponentPart_eq_led]
  cases h with
  | none => exact (hletter rfl).led_eq_nil
  | unsigned hfirst hds =>
      have hdigits := hds.takeWhile_append hdigit
      refine led_append hfirst hds.1 ?_
      rw [firstOf_of_ne_nil (by rw [hdigits]; exact hds.1), hdigits]
  | @signed letter sign ds hfirst hsign hds =>
      have hnot : Stops isAsciiDigit (sign :: ds ++ rest) := by
        intro c hc
        cases hc
        simp only [isSign, Bool.or_eq_true, beq_iff_eq] at hsign
        obtain rfl | rfl := hsign <;> rfl
      refine led_append hfirst (List.cons_ne_nil _ _) ?_
      rw [firstOf_of_eq_nil hnot.takeWhile_eq_nil]
      exact led_append hsign hds.1 (hds.takeWhile_append hdigit)

theorem isDigits_takeWhile (h : cs.takeWhile isAsciiDigit ≠ []) :
    IsDigits (cs.takeWhile isAsciiDigit) :=
  ⟨h, fun _ => List.mem_takeWhile_imp⟩

theorem isFraction_fractionPart (cs : List Char) : IsFraction (fractionPart cs) := by
  rw [fractionPart_eq_led]
  rcases led_cases (· == '.') (List.takeWhile isAsciiDigit) cs with hnil | ⟨c, rest, hc, hne, hled⟩
  · rw [hnil]
    exact .none
  · rw [hled, eq_of_beq hc]
    exact .some (isDigits_takeWhile hne)

theorem isExponent_exponentPart (cs : List Char) : IsExponent (exponentPart cs) := by
  rw [exponentPart_eq_led]
  rcases led_cases isExponentLetter
    (firstOf (List.takeWhile isAsciiDigit) (led isSign (List.takeWhile isAsciiDigit))) cs with
    hnil | ⟨c, rest, hc, hne, hled⟩
  · rw [hnil]
    exact .none
  · rw [hled]
    by_cases hdigits : rest.takeWhile isAsciiDigit = []
    · rw [firstOf_of_eq_nil hdigits] at hne ⊢
      obtain hnil | ⟨sign, rest', hsign, hne', hled'⟩ :=
        led_cases isSign (List.takeWhile isAsciiDigit) rest
      · exact absurd hnil hne
      · rw [hled']
        exact .signed hc hsign (isDigits_takeWhile hne')
    · rw [firstOf_of_ne_nil hdigits]
      exact .unsigned hc (isDigits_takeWhile hdigits)

/-! ### Characters of numbers -/

/-- The characters that stand in numbers as digits or as marks, a point and a sign apart. -/
def isNumberChar (c : Char) : Bool :=
  isAsciiHexDigit c || isExponentLetter c || isHexLetter c

theorem toNat_of_isNumberChar (h : isNumberChar c = true) : c.toNat < 128 := by
  simp only [isNumberChar, isAsciiHexDigit, isAsciiDigit, isExponentLetter, isHexLetter,
    Bool.or_eq_true, Bool.and_eq_true, decide_eq_true_eq, beq_iff_eq, Char.le_def,
    UInt32.le_iff_toNat_le] at h
  obtain (((⟨-, h⟩ | ⟨-, h⟩) | ⟨-, h⟩) | rfl | rfl) | rfl | rfl := h
  · exact Nat.lt_of_le_of_lt h (by decide)
  · exact Nat.lt_of_le_of_lt h (by decide)
  · exact Nat.lt_of_le_of_lt h (by decide)
  all_goals decide

theorem isNamePart_of_isNumberChar (h : isNumberChar c = true) : isNamePart c = true := by
  have hall : ∀ n < 128, isNumberChar (Char.ofNat n) = true → isNamePart (Char.ofNat n) = true := by
    decide +kernel
  have hc := hall c.toNat (toNat_of_isNumberChar h)
  rw [Char.ofNat_toNat] at hc
  exact hc h

/-- What ends a name ends the parts of a number. -/
theorem Stops.of_name (h : Stops isNamePart cs) (hp : ∀ c, p c = true → isNumberChar c = true) :
    Stops p cs :=
  h.mono fun c hc => Bool.eq_false_iff.2 fun hpc => by
    rw [isNamePart_of_isNumberChar (hp c hpc)] at hc
    cases hc

theorem isNumberChar_of_isAsciiHexDigit (h : isAsciiHexDigit c = true) : isNumberChar c = true := by
  rw [isNumberChar, h, Bool.true_or, Bool.true_or]

theorem isNumberChar_of_isAsciiDigit (h : isAsciiDigit c = true) : isNumberChar c = true := by
  rw [isNumberChar, isAsciiHexDigit, h, Bool.true_or, Bool.true_or, Bool.true_or, Bool.true_or]

/-- The letters that a number can have behind it. -/
def suffixLetters : List Char :=
  ['u', 'l', 'f', 'd', 'm']

/-- Letters behind a number, in either case. -/
def IsSuffix (suffix : List Char) : Prop :=
  ∀ c ∈ suffix, asciiLower c ∈ suffixLetters

theorem IsSuffix.forall_eq {b : Bool} (h : IsSuffix suffix) (hcase : ∀ c, p (asciiLower c) = p c)
    (hletters : (suffixLetters.all fun c => p c == b) = true) : ∀ c ∈ suffix, p c = b :=
  fun c hc => (hcase c).symm.trans (eq_of_beq (List.all_eq_true.1 hletters _ (h c hc)))

/-- Behind the digits of a number no part of it comes but its suffix. -/
theorem IsSuffix.stops (h : IsSuffix suffix) (hrest : suffix = [] → Stops p rest)
    (hcase : ∀ c, p (asciiLower c) = p c)
    (hletters : (suffixLetters.all fun c => p c == false) = true) : Stops p (suffix ++ rest) :=
  stops_append (h.forall_eq hcase hletters) hrest

/-- The key of a suffix that is listed is the suffix in lower case. -/
theorem fold_suffix {suffixes : List (List Char)}
    (hall : (suffixes.all fun s => fold (String.ofList s) == String.ofList s) = true)
    (h : suffix.map asciiLower ∈ suffixes) :
    fold (String.ofList suffix) = String.ofList (suffix.map asciiLower) := by
  rw [← fold_ofList_map_asciiLower]
  exact eq_of_beq (List.all_eq_true.1 hall _ h)

/-- The hexadecimal digits of a number, in either case and after zeros, denote the number. -/
theorem hex_spec {n zeros : Nat}
    (hds : ds.map asciiLower = List.replicate zeros '0' ++ Nat.toDigits 16 n) :
    ds ≠ [] ∧ (∀ d ∈ ds, isAsciiHexDigit d = true) ∧ ofHexDigits ds = n := by
  obtain ⟨hvalue, hall⟩ := hexDigits_spec n
  refine ⟨?_, fun d hd => ?_, ?_⟩
  · rintro rfl
    exact List.append_ne_nil_of_right_ne_nil _ Nat.toDigits_ne_nil hds.symm
  · rw [← isAsciiHexDigit_asciiLower]
    have hmem := List.mem_map_of_mem (f := asciiLower) hd
    rw [hds] at hmem
    rcases List.mem_append.1 hmem with hmem | hmem
    · rw [List.eq_of_mem_replicate hmem]
      rfl
    · exact List.all_eq_true.1 hall _ hmem
  · rw [← ofHexDigits_map_asciiLower, hds, ofHexDigits_replicate_append, hvalue]

/-! ### Numbers from their parts -/

theorem IsFraction.stops (h : IsFraction fraction) (hrest : fraction = [] → Stops p rest)
    (hp : p '.' = false) : Stops p (fraction ++ rest) := by
  cases h with
  | none => exact hrest rfl
  | some =>
      intro c hc
      cases hc
      exact hp

theorem IsExponent.stops (h : IsExponent exponent) (hrest : exponent = [] → Stops p rest)
    (he : p 'e' = false) (hE : p 'E' = false) : Stops p (exponent ++ rest) := by
  have hletter : ∀ c, isExponentLetter c = true → p c = false := by
    intro c hc
    simp only [isExponentLetter, Bool.or_eq_true, beq_iff_eq] at hc
    obtain rfl | rfl := hc
    · exact he
    · exact hE
  cases h with
  | none => exact hrest rfl
  | unsigned hfirst | signed hfirst =>
      intro c hc
      cases hc
      exact hletter _ hfirst

/-- A number in decimal digits does not start as a hexadecimal one. -/
theorem isHexStart_append (hwhole : IsDigits whole) (hrest : Stops isHexLetter rest) :
    isHexStart (whole ++ rest) = false := by
  obtain ⟨d, ds, rfl⟩ := List.exists_cons_of_ne_nil hwhole.1
  have hnext : Stops isHexLetter (ds ++ rest) := by
    refine stops_append (fun c hc => ?_) fun _ => hrest
    have hdigit := hwhole.2 c (List.mem_cons_of_mem d hc)
    refine Bool.eq_false_iff.2 fun hx => ?_
    simp only [isHexLetter, Bool.or_eq_true, beq_iff_eq] at hx
    obtain rfl | rfl := hx <;> cases hdigit
  have hsecond : (d :: ds ++ rest)[1]?.any isHexLetter = false := by
    rw [List.cons_append, List.getElem?_cons_succ, any_getElem?_zero, hnext.takeWhile_eq_nil]
    rfl
  rw [isHexStart_eq, hsecond, Bool.and_false, Bool.false_and]

/-- A number is read from its parts: the value is that of the digits, the fraction and the exponent,
and of the suffix in lower case. -/
theorem numberPart_append (hwhole : IsDigits whole) (hfraction : IsFraction fraction)
    (hexponent : IsExponent exponent) (hsuffix : IsSuffix suffix) (hrest : Stops isNamePart rest)
    (hpoint : fraction = [] → exponent = [] → suffix = [] → Stops (· == '.') rest) :
    numberPart (whole ++ (fraction ++ (exponent ++ (suffix ++ rest)))) =
      (whole ++ fraction ++ exponent ++ suffix,
        decimalLiteral? (whole ++ fraction ++ lowerExponent exponent)
          (!(fraction.isEmpty && exponent.isEmpty)) (fold (String.ofList suffix))) := by
  have hafter {p : Char → Bool} (hp : ∀ c, p c = true → isNumberChar c = true)
      (hcase : ∀ c, p (asciiLower c) = p c)
      (hletters : (suffixLetters.all fun c => p c == false) = true) : Stops p (suffix ++ rest) :=
    hsuffix.stops (fun _ => hrest.of_name hp) hcase hletters
  have hdigit₁ : Stops isAsciiDigit (suffix ++ rest) :=
    hafter (fun _ => isNumberChar_of_isAsciiDigit) isAsciiDigit_asciiLower (by decide)
  have hdigit₂ : Stops isAsciiDigit (exponent ++ (suffix ++ rest)) :=
    hexponent.stops (fun _ => hdigit₁) rfl rfl
  have hdigit₃ : Stops isAsciiDigit (fraction ++ (exponent ++ (suffix ++ rest))) :=
    hfraction.stops (fun _ => hdigit₂) rfl
  have hmark : Stops isHexLetter (fraction ++ (exponent ++ (suffix ++ rest))) :=
    hfraction.stops (fun _ => hexponent.stops (fun _ => hafter
      (fun c hc => by rw [isNumberChar, hc, Bool.or_true])
      (eq_asciiLower isHexLetter (by decide)) (by decide)) rfl rfl) rfl
  have hletter : Stops isExponentLetter (suffix ++ rest) :=
    hafter (fun c hc => by rw [isNumberChar, hc, Bool.or_true, Bool.true_or])
      (eq_asciiLower isExponentLetter (by decide)) (by decide)
  have hpointNext : fraction = [] → Stops (· == '.') (exponent ++ (suffix ++ rest)) := fun hf =>
    hexponent.stops (fun he => hsuffix.stops (hpoint hf he)
      (eq_asciiLower (· == '.') (by decide)) (by decide)) rfl rfl
  have hname : ∀ c ∈ suffix, isNamePart c = true :=
    hsuffix.forall_eq isNamePart_asciiLower (by decide)
  rw [numberPart, isHexStart_append hwhole hmark, if_neg Bool.false_ne_true]
  dsimp only
  rw [hwhole.takeWhile_append hdigit₃, hdigit₃.dropWhile_append hwhole.2,
    fractionPart_append hfraction hdigit₂ hpointNext, List.drop_left,
    exponentPart_append hexponent hdigit₁ fun _ => hletter, List.drop_left,
    hrest.takeWhile_append hname]

/-- A hexadecimal number is read from its digits and a suffix without hexadecimal digits. -/
theorem numberPart_hex {mark : Char} (hmark : isHexLetter mark = true) (hne : ds ≠ [])
    (hds : ∀ d ∈ ds, isAsciiHexDigit d = true) (hsuffix : IsSuffix suffix)
    (hhex : ∀ c ∈ suffix, isAsciiHexDigit c = false) (hrest : Stops isNamePart rest) :
    numberPart ('0' :: mark :: ds ++ (suffix ++ rest)) =
      ('0' :: mark :: ds ++ suffix, hexLiteral? ds (fold (String.ofList suffix))) := by
  have hstops : Stops isAsciiHexDigit (suffix ++ rest) :=
    stops_append hhex fun _ => hrest.of_name fun _ => isNumberChar_of_isAsciiHexDigit
  have hname : ∀ c ∈ suffix, isNamePart c = true :=
    hsuffix.forall_eq isNamePart_asciiLower (by decide)
  have hstart : isHexStart ('0' :: mark :: ds ++ (suffix ++ rest)) = true := by
    obtain ⟨d, ds, rfl⟩ := List.exists_cons_of_ne_nil hne
    rw [isHexStart_eq]
    simp [hmark, hds d List.mem_cons_self]
  have hbody : ('0' :: mark :: ds ++ (suffix ++ rest)).drop 2 = ds ++ (suffix ++ rest) := rfl
  have htake : ('0' :: mark :: ds ++ (suffix ++ rest)).take 2 = ['0', mark] := rfl
  rw [numberPart, if_pos hstart]
  dsimp only
  rw [hbody, htake, hstops.takeWhile_append hds, hstops.dropWhile_append hds,
    hrest.takeWhile_append hname]
  rfl

/-! ### Numbers as tokens -/

theorem isNameStart_of_isAsciiDigit (h : isAsciiDigit c = true) : isNameStart c = false := by
  obtain ⟨hfirst, hlast⟩ := toNat_of_isAsciiDigit h
  have hall : ∀ n < 58, 48 ≤ n → isNameStart (Char.ofNat n) = false := by decide
  have hc := hall c.toNat (by omega) hfirst
  rwa [Char.ofNat_toNat] at hc

theorem next_of_isAsciiDigit (hc : isAsciiDigit c = true) :
    next offset c cs = match (numberPart (c :: cs)).2 with
      | some n => .ok (⟨.number n, String.ofList (numberPart (c :: cs)).1, offset⟩,
          (c :: cs).drop (numberPart (c :: cs)).1.length)
      | none => .error (.invalidNumber (String.ofList (numberPart (c :: cs)).1) offset) := by
  have hquote : ¬(c == '"' || c == '\'') = true := by
    rintro hquote
    rw [isAsciiDigit_of_isQuote c hquote] at hc
    cases hc
  have hname : ¬isNameStart c = true := by
    rw [isNameStart_of_isAsciiDigit hc]
    exact Bool.false_ne_true
  exact (if_neg hquote).trans ((if_neg hname).trans ((if_pos hc).trans rfl))

theorem isSpace_of_isAsciiDigit (hc : isAsciiDigit c = true) : isSpace c = false := by
  refine Bool.eq_false_iff.2 fun hspace => ?_
  rw [isAsciiDigit_of_isSpace c hspace] at hc
  cases hc

section Number

variable {tail : List Char} {value : Option Number} (hc : isAsciiDigit c = true)
include hc

/-- What is read as a number with a value is one token. -/
theorem readsAs_number {n : Number}
    (h : numberPart (c :: tail ++ rest) = (c :: tail, some n)) :
    ReadsAs offset (c :: tail ++ rest) ⟨.number n, String.ofList (c :: tail), offset⟩ rest := by
  rw [List.cons_append] at h ⊢
  refine readsAs_of_next (isSpace_of_isAsciiDigit hc) ?_
  rw [next_of_isAsciiDigit hc, h]
  dsimp only
  rw [← List.cons_append, List.drop_left]

/-- What is read as a number without a value is none. -/
theorem failsAs_number (h : numberPart (c :: tail ++ rest) = (c :: tail, none)) :
    FailsAs offset (c :: tail ++ rest) (.invalidNumber (String.ofList (c :: tail)) offset) := by
  rw [List.cons_append] at h ⊢
  refine failsAs_of_next (isSpace_of_isAsciiDigit hc) ?_
  rw [next_of_isAsciiDigit hc, h]

end Number

/-- A number among the tokens has been read from its spelling. -/
theorem next_eq_number {n : Number} (h : next offset c cs = .ok (t, rest)) (ht : t.lexeme = .number n) :
    isAsciiDigit c = true ∧ numberPart (c :: cs) = (t.spelling.toList, some n) := by
  unfold next at h
  split at h
  · split at h
    · obtain ⟨rfl, -⟩ := Prod.mk.inj (Except.ok.inj h)
      simp only [literalOf] at ht
      split at ht <;> cases ht
    · cases h
  split at h
  · obtain ⟨rfl, -⟩ := Prod.mk.inj (Except.ok.inj h)
    dsimp only at ht
    split at ht <;> cases ht
  split at h
  · rename_i hc
    dsimp only at h
    split at h
    · rename_i hn
      obtain ⟨rfl, -⟩ := Prod.mk.inj (Except.ok.inj h)
      cases ht
      refine ⟨hc, Prod.ext ?_ hn⟩
      rw [String.toList_ofList]
    · cases h
  · split at h
    · obtain ⟨rfl, -⟩ := Prod.mk.inj (Except.ok.inj h)
      cases ht
    · cases h

end Elementwise.Token
