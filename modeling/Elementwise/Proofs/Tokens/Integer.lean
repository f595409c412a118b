import Elementwise.Proofs.Tokens.Reading

/-!
Integer literals.  A natural number that is written in decimal or hexadecimal digits, with a suffix or
without one, is read as that number in the first kind that its suffix admits and that holds it; a number
that not even the largest kind holds is no literal.
-/

namespace Elementwise.Token

open Text Number

/-- A natural number in decimal or hexadecimal digits of either case, after any number of zeros. -/
inductive SpellsNatural (n : Nat) : List Char → Prop where
  | decimal (zeros : Nat) : SpellsNatural n (List.replicate zeros '0' ++ Nat.toDigits 10 n)
  | hexadecimal (zeros : Nat) {mark : Char} {ds : List Char} (hmark : mark = 'x' ∨ mark = 'X')
      (hds : ds.map asciiLower = List.replicate zeros '0' ++ Nat.toDigits 16 n) :
    SpellsNatural n ('0' :: mark :: ds)

/-- The suffixes of integers in lower case. -/
def integerSuffixes : List (List Char) :=
  [[], ['u'], ['l'], ['u', 'l'], ['l', 'u']]

/-- Whether a kind can have the suffix: `u` is for kinds without a sign, `l` for kinds of 64 bits. -/
def admits (suffix : List Char) (k : WordKind) : Bool :=
  (!suffix.contains 'u' || !k.signed) && (!suffix.contains 'l' || k.bits == 64)

/-- The kinds of integer literals that the suffix admits, smallest first. -/
def admittedKinds (suffix : List Char) : List WordKind :=
  [.int32, .uint32, .int64, .uint64].filter (admits suffix)

/-- The first admitted kind that holds the number. -/
def firstKind? (n : Nat) (suffix : List Char) : Option WordKind :=
  (admittedKinds suffix).find? fun k => decide ((n : Int) ≤ k.max)

/-- Nothing comes after an integer, or white space, or an operator or delimiter other than a point. -/
def EndsInteger (rest : List Char) : Prop :=
  ∀ c ∈ rest.head?, isSpace c = true ∨ c ≠ '.' ∧ ∃ e ∈ Punctuator.spellings, c ∈ e.1.toList

variable {n offset : Nat} {digits suffix rest : List Char} {ks : List WordKind}

/-! ### What comes after an integer -/

theorem isNamePart_of_mem_spelling {e : String × Punctuator} (he : e ∈ Punctuator.spellings) :
    ∀ c ∈ e.1.toList, isNamePart c = false := by
  have hall : (Punctuator.spellings.all fun e => e.1.toList.all fun c => !isNamePart c) = true := by
    decide +kernel
  intro c hc
  have hchar := List.all_eq_true.1 (List.all_eq_true.1 hall e he) c hc
  rwa [Bool.not_eq_true'] at hchar

theorem EndsInteger.name (h : EndsInteger rest) : Stops isNamePart rest := by
  intro c hc
  rcases h c hc with hspace | ⟨-, e, he, hmem⟩
  · exact isNamePart_of_isSpace c hspace
  · exact isNamePart_of_mem_spelling he c hmem

theorem EndsInteger.point (h : EndsInteger rest) : Stops (· == '.') rest := by
  intro c hc
  rcases h c hc with hspace | ⟨hne, -⟩
  · exact eq_false_of_isSpace (p := (· == '.')) (by decide +kernel) c hspace
  · exact beq_eq_false_iff_ne.2 hne

/-! ### Kinds -/

theorem ofInt?_natCast (k : WordKind) (n : Nat) :
    Word.ofInt? k n = if h : (n : Int) ≤ k.max then some ⟨n, by have := k.min_le_zero; omega, h⟩
      else none := by
  have hmin := k.min_le_zero
  rw [Word.ofInt?]
  by_cases h : (n : Int) ≤ k.max
  · rw [dif_pos ⟨by omega, h⟩, dif_pos h]
  · rw [dif_neg (fun hc => h hc.2), dif_neg h]

/-- The first kind that holds a number gives the number as a literal. -/
theorem findSome?_of_find? {k : WordKind}
    (h : (ks.find? fun k => decide ((n : Int) ≤ k.max)) = some k) :
    ∃ w : Word k, w.val = n ∧
      (ks.findSome? fun k => (Word.ofInt? k n).map (Number.word k)) = some (.word k w) := by
  induction ks with
  | nil => cases h
  | cons j ks ih =>
      rw [List.find?_cons] at h
      rw [List.findSome?_cons, ofInt?_natCast]
      by_cases hj : (n : Int) ≤ j.max
      · rw [decide_eq_true hj] at h
        cases h
        rw [dif_pos hj]
        exact ⟨_, rfl, rfl⟩
      · rw [decide_eq_false hj] at h
        rw [dif_neg hj]
        exact ih h

theorem findSome?_eq_none (h : ∀ k ∈ ks, k.max < (n : Int)) :
    (ks.findSome? fun k => (Word.ofInt? k n).map (Number.word k)) = none := by
  refine List.findSome?_eq_none_iff.2 fun k hk => ?_
  have := h k hk
  rw [ofInt?_natCast, dif_neg (by omega)]
  rfl

theorem integerKinds_eq (hsuffix : suffix ∈ integerSuffixes) :
    integerKinds (String.ofList suffix) = admittedKinds suffix := by
  have hall : ∀ s ∈ integerSuffixes, integerKinds (String.ofList s) = admittedKinds s := by decide
  exact hall suffix hsuffix

theorem max_uint64 : WordKind.uint64.max = (Nat.pow 2 64 : Nat) - 1 :=
  rfl

theorem max_le_uint64 (k : WordKind) : k.max ≤ WordKind.uint64.max := by
  cases k <;> decide

theorem integerLiteral?_of_lt (hsuffix : suffix ∈ integerSuffixes) (hn : n < Nat.pow 2 64) :
    ∃ k, ∃ w : Word k, firstKind? n suffix = some k ∧ w.val = n ∧
      integerLiteral? n (String.ofList suffix) = some (.word k w) := by
  have hmem : .uint64 ∈ admittedKinds suffix := by
    have hall : ∀ s ∈ integerSuffixes, .uint64 ∈ admittedKinds s := by decide
    exact hall suffix hsuffix
  have hmax := max_uint64
  have hsome : (firstKind? n suffix).isSome = true :=
    List.find?_isSome.2 ⟨.uint64, hmem, decide_eq_true (by omega)⟩
  obtain ⟨k, hk⟩ := Option.isSome_iff_exists.1 hsome
  obtain ⟨w, hw, hliteral⟩ := findSome?_of_find? hk
  refine ⟨k, w, hk, hw, ?_⟩
  rw [integerLiteral?, integerKinds_eq hsuffix]
  exact hliteral

theorem integerLiteral?_of_le (suffix : String) (hn : Nat.pow 2 64 ≤ n) : integerLiteral? n suffix = none := by
  refine findSome?_eq_none fun k _ => ?_
  have hmax := max_uint64
  have := max_le_uint64 k
  omega

theorem decimalLiteral?_of_mem (hsuffix : suffix ∈ integerSuffixes) (ds : List Char) :
    decimalLiteral? ds false (String.ofList suffix) =
      integerLiteral? (ofDigits ds) (String.ofList suffix) := by
  simp only [integerSuffixes, List.mem_cons, List.not_mem_nil, or_false] at hsuffix
  obtain rfl | rfl | rfl | rfl | rfl := hsuffix <;> rfl

theorem hexLiteral?_of_mem (hsuffix : suffix ∈ integerSuffixes) (ds : List Char) :
    hexLiteral? ds (String.ofList suffix) =
      integerLiteral? (ofHexDigits ds) (String.ofList suffix) := by
  have hmax := max_uint64
  have hm : ∀ s ∈ integerSuffixes, String.ofList s ≠ "m" := by decide
  rw [hexLiteral?]
  split
  · rw [integerLiteral?_of_le _ (by omega)]
  · rw [if_neg (hm suffix hsuffix)]

/-! ### Spellings -/

theorem isSuffix_of_mem (hsuffix : suffix.map asciiLower ∈ integerSuffixes) :
    ∀ c ∈ suffix, asciiLower c ∈ ['u', 'l'] := by
  have hall : (integerSuffixes.all fun s => s.all ['u', 'l'].contains) = true := by decide
  have hletters := List.all_eq_true.1 (List.all_eq_true.1 hall _ hsuffix)
  exact fun c hc => List.contains_iff_mem.1 (hletters _ (List.mem_map_of_mem hc))

theorem decimal_spec (n zeros : Nat) : IsDigits (List.replicate zeros '0' ++ Nat.toDigits 10 n) ∧
    ofDigits (List.replicate zeros '0' ++ Nat.toDigits 10 n) = n := by
  refine ⟨⟨?_, fun d hd => ?_⟩, ?_⟩
  · exact List.append_ne_nil_of_right_ne_nil _ Nat.toDigits_ne_nil
  · rcases List.mem_append.1 hd with hd | hd
    · rw [List.eq_of_mem_replicate hd]
      rfl
    · exact isAsciiDigit_of_mem_digits hd
  · rw [ofDigits, Nat.ofDigitChars_append, Nat.ofDigitChars_replicate_zero, Nat.mul_zero]
    exact ofDigits_digits n

/-- The value of an integer does not depend on how it is spelled. -/
theorem numberPart_of_spells (hdigits : SpellsNatural n digits)
    (hsuffix : suffix.map asciiLower ∈ integerSuffixes) (hrest : EndsInteger rest) :
    numberPart (digits ++ (suffix ++ rest)) =
      (digits ++ suffix, integerLiteral? n (String.ofList (suffix.map asciiLower))) := by
  have hletters := isSuffix_of_mem hsuffix
  have hfold := fold_suffix (by decide) hsuffix
  have hsuffixLetters : IsSuffix suffix := fun c hc => by
    have hall : (['u', 'l'].all suffixLetters.contains) = true := by decide
    exact List.contains_iff_mem.1 (List.all_eq_true.1 hall _ (hletters c hc))
  cases hdigits with
  | decimal zeros =>
      obtain ⟨hwhole, hvalue⟩ := decimal_spec n zeros
      have hpart := numberPart_append hwhole .none .none hsuffixLetters hrest.name
        fun _ _ _ => hrest.point
      simp only [List.nil_append, List.append_nil, lowerExponent, List.isEmpty_nil, Bool.and_self,
        Bool.not_true] at hpart
      rw [hpart, hfold, decimalLiteral?_of_mem hsuffix, hvalue]
  | @hexadecimal zeros mark ds hmark hds =>
      obtain ⟨hne, hall, hvalue⟩ := hex_spec hds
      have hx : isHexLetter mark = true := by
        obtain rfl | rfl := hmark <;> rfl
      have hhex : ∀ c ∈ suffix, isAsciiHexDigit c = false := fun c hc => by
        have hall : (['u', 'l'].all fun l => !isAsciiHexDigit l) = true := by decide
        have hl := List.all_eq_true.1 hall _ (hletters c hc)
        rwa [Bool.not_eq_true', isAsciiHexDigit_asciiLower] at hl
      rw [numberPart_hex hx hne hall hsuffixLetters hhex hrest.name, hfold,
        hexLiteral?_of_mem hsuffix, hvalue]

theorem head_of_spells (hdigits : SpellsNatural n digits) :
    ∃ c tail, digits = c :: tail ∧ isAsciiDigit c = true := by
  cases hdigits with
  | decimal zeros =>
      obtain ⟨⟨hne, hall⟩, -⟩ := decimal_spec n zeros
      obtain ⟨c, tail, hcons⟩ := List.exists_cons_of_ne_nil hne
      exact ⟨c, tail, hcons, hall c (hcons ▸ List.mem_cons_self)⟩
  | hexadecimal => exact ⟨_, _, rfl, rfl⟩

/-- An integer literal is one token with its whole spelling, in the first admitted kind that holds the
number; it is none, for its value, exactly if the number has more than 64 bits. -/
theorem integer_literal (hdigits : SpellsNatural n digits)
    (hsuffix : suffix.map asciiLower ∈ integerSuffixes) (hrest : EndsInteger rest) (offset : Nat) :
    (n < Nat.pow 2 64 → ∃ k, ∃ w : Word k, firstKind? n (suffix.map asciiLower) = some k ∧ w.val = n ∧
      ReadsAs offset (digits ++ suffix ++ rest)
        ⟨.number (.word k w), String.ofList (digits ++ suffix), offset⟩ rest) ∧
    (FailsAs offset (digits ++ suffix ++ rest)
        (.invalidNumber (String.ofList (digits ++ suffix)) offset) ↔ Nat.pow 2 64 ≤ n) := by
  have hpart := numberPart_of_spells hdigits hsuffix hrest
  obtain ⟨c, tail, rfl, hc⟩ := head_of_spells hdigits
  rw [← List.append_assoc, List.cons_append] at hpart
  have hreads (hn : n < Nat.pow 2 64) : ∃ k, ∃ w : Word k,
      firstKind? n (suffix.map asciiLower) = some k ∧ w.val = n ∧
        ReadsAs offset (c :: (tail ++ suffix) ++ rest)
          ⟨.number (.word k w), String.ofList (c :: (tail ++ suffix)), offset⟩ rest := by
    obtain ⟨k, w, hk, hw, hliteral⟩ := integerLiteral?_of_lt hsuffix hn
    exact ⟨k, w, hk, hw, readsAs_number hc (hpart.trans (by rw [hliteral]))⟩
  refine ⟨hreads, fun hfails => ?_, fun hn => failsAs_number hc (hpart.trans ?_)⟩
  · by_contra hlt
    obtain ⟨k, w, -, -, hread⟩ := hreads (Nat.lt_of_not_le hlt)
    exact hread.not_failsAs hfails
  · rw [integerLiteral?_of_le _ hn]
    rfl

/-- The first number that does not fit 32 bits with a sign fits 32 bits without one. -/
theorem integer_literal_unsigned :
    SpellsNatural 2147483648 ['0', 'x', '8', '0', '0', '0', '0', '0', '0', '0'] ∧
      ([] : List Char).map asciiLower ∈ integerSuffixes ∧ EndsInteger ['+'] ∧
      ∃ w : Word .uint32, w.val = 2147483648 ∧
        ReadsAs 4 ['0', 'x', '8', '0', '0', '0', '0', '0', '0', '0', '+']
          ⟨.number (.word .uint32 w), "0x80000000", 4⟩ ['+'] := by
  have hdigits : SpellsNatural 2147483648 ['0', 'x', '8', '0', '0', '0', '0', '0', '0', '0'] :=
    .hexadecimal 0 (Or.inl rfl) (by decide)
  have hsuffix : ([] : List Char).map asciiLower ∈ integerSuffixes := by decide
  have hrest : EndsInteger ['+'] := by
    intro c hc
    cases hc
    exact Or.inr ⟨by decide, ("+", .plus), by decide, by decide⟩
  obtain ⟨k, w, hk, hw, hreads⟩ := (integer_literal hdigits hsuffix hrest 4).1 (by decide)
  have huint32 : firstKind? 2147483648 (([] : List Char).map asciiLower) = some .uint32 := by decide
  obtain rfl := Option.some.inj (hk.symm.trans huint32)
  exact ⟨hdigits, hsuffix, hrest, w, hw, hreads⟩

end Elementwise.Token
