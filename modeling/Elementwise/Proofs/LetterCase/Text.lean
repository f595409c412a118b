import Elementwise.Text.Case
import Elementwise.Text.Numeral

/-!
# The letter case of ASCII characters

Character classes, the keys of names and comparisons of names do not see the case of ASCII letters.
Beyond ASCII only two characters have a lower case with an ASCII character in it, which are an `i` with
a dot and the Kelvin sign; so a key of other ASCII characters belongs to one name in either case of its
letters, and to no other.  `Text.lowerOutside` puts a text in lower case but for its string and character
literals: two texts differ in nothing but the case of letters outside literals if it makes them the same.
-/

namespace Elementwise.Text

/-! ### Characters -/

theorem toNat_of_isAsciiUpper {c : Char} (h : isAsciiUpper c = true) :
    65 ≤ c.toNat ∧ c.toNat ≤ 90 := by
  simp only [isAsciiUpper, Bool.and_eq_true, decide_eq_true_eq] at h
  exact ⟨h.1, h.2⟩

theorem asciiLower_of_isAsciiUpper_eq_false {c : Char} (h : isAsciiUpper c = false) :
    asciiLower c = c := by
  rw [asciiLower, h]
  rfl

theorem toNat_asciiLower {c : Char} (h : isAsciiUpper c = true) :
    (asciiLower c).toNat = c.toNat + 32 := by
  obtain ⟨hA, hZ⟩ := toNat_of_isAsciiUpper h
  have hvalid : (c.toNat + 32).isValidChar := Or.inl (by omega)
  rw [asciiLower, if_pos h, Char.ofNat, dif_pos hvalid]
  rfl

/-- What agrees on the two cases of each of the 26 letters does not see their case. -/
theorem eq_asciiLower {α : Type} (f : Char → α)
    (h : ∀ n < 26, f (Char.ofNat (97 + n)) = f (Char.ofNat (65 + n))) (c : Char) :
    f (asciiLower c) = f c := by
  cases hc : isAsciiUpper c with
  | false => rw [asciiLower_of_isAsciiUpper_eq_false hc]
  | true =>
      obtain ⟨hA, hZ⟩ := toNat_of_isAsciiUpper hc
      have hlower : asciiLower c = Char.ofNat (97 + (c.toNat - 65)) := by
        rw [asciiLower, if_pos hc]
        congr 1
        omega
      have hupper : Char.ofNat (65 + (c.toNat - 65)) = c := by
        rw [Nat.add_sub_of_le hA, Char.ofNat_toNat]
      rw [hlower, h (c.toNat - 65) (by omega), hupper]

theorem asciiLower_asciiLower (c : Char) : asciiLower (asciiLower c) = asciiLower c :=
  eq_asciiLower asciiLower (by decide) c

theorem isSpace_asciiLower (c : Char) : isSpace (asciiLower c) = isSpace c :=
  eq_asciiLower isSpace (by decide) c

theorem isAsciiDigit_asciiLower (c : Char) : isAsciiDigit (asciiLower c) = isAsciiDigit c :=
  eq_asciiLower isAsciiDigit (by decide) c

theorem isAsciiHexDigit_asciiLower (c : Char) :
    isAsciiHexDigit (asciiLower c) = isAsciiHexDigit c :=
  eq_asciiLower isAsciiHexDigit (by decide) c

theorem hexDigitValue_asciiLower (c : Char) : hexDigitValue (asciiLower c) = hexDigitValue c :=
  eq_asciiLower hexDigitValue (by decide) c

theorem isCased_asciiLower (c : Char) : isCased (asciiLower c) = isCased c :=
  eq_asciiLower isCased (by decide) c

/-- No code point from `low` to `high` lies in ranges that all end before or start after these. -/
theorem inRanges_eq_false {ranges : List (Nat × Nat)} {low high n : Nat}
    (h : ∀ range ∈ ranges, range.2 < low ∨ high < range.1) (hlow : low ≤ n) (hhigh : n ≤ high) :
    inRanges ranges n = false := by
  rw [inRanges, List.any_eq_false]
  intro range hrange
  have hapart := h range hrange
  simp only [Bool.and_eq_true, decide_eq_true_eq]
  omega

theorem isCaseIgnorable_asciiLower (c : Char) :
    isCaseIgnorable (asciiLower c) = isCaseIgnorable c := by
  cases hc : isAsciiUpper c with
  | false => rw [asciiLower_of_isAsciiUpper_eq_false hc]
  | true =>
      -- the table has no ASCII letters, which it is looked through for twice and not 52 times
      have hupper : ∀ range ∈ Unicode.caseIgnorableRanges, range.2 < 65 ∨ 90 < range.1 := by
        decide +kernel
      have hlower : ∀ range ∈ Unicode.caseIgnorableRanges, range.2 < 97 ∨ 122 < range.1 := by
        decide +kernel
      obtain ⟨hA, hZ⟩ := toNat_of_isAsciiUpper hc
      have htoNat := toNat_asciiLower hc
      rw [isCaseIgnorable, isCaseIgnorable, inRanges_eq_false hupper hA hZ,
        inRanges_eq_false hlower (by omega) (by omega)]

theorem lowerChar_asciiLower (c : Char) : lowerChar (asciiLower c) = lowerChar c :=
  eq_asciiLower lowerChar (by decide) c

/-- A character that is no letter is the lower case of itself only. -/
theorem asciiLower_eq_iff {c d : Char} (hd : (isAsciiUpper d || isAsciiLower d) = false) :
    asciiLower c = d ↔ c = d := by
  have hletter := eq_asciiLower (fun c => isAsciiUpper c || isAsciiLower c) (by decide) c
  cases hc : isAsciiUpper c with
  | false => rw [asciiLower_of_isAsciiUpper_eq_false hc]
  | true =>
      simp only [hc, Bool.true_or] at hletter
      constructor
      · rintro rfl
        rw [hd] at hletter
        cases hletter
      · rintro rfl
        rw [hc] at hd
        cases hd

/-! ### Keys -/

/-- The text with its ASCII letters in lower case. -/
def lowerAscii (s : String) : String :=
  String.ofList (s.toList.map asciiLower)

theorem toList_lowerAscii (s : String) : (lowerAscii s).toList = s.toList.map asciiLower := by
  rw [lowerAscii, String.toList_ofList]

theorem meetsCased_map_asciiLower (cs : List Char) :
    meetsCased (cs.map asciiLower) = meetsCased cs := by
  have hignorable : isCaseIgnorable ∘ asciiLower = isCaseIgnorable :=
    funext isCaseIgnorable_asciiLower
  rw [meetsCased, meetsCased, List.dropWhile_map, hignorable]
  cases cs.dropWhile isCaseIgnorable with
  | nil => rfl
  | cons c cs => exact isCased_asciiLower c

theorem lowerAfter_map_asciiLower (before cs : List Char) :
    lowerAfter (before.map asciiLower) (cs.map asciiLower) = lowerAfter before cs := by
  induction cs generalizing before with
  | nil => rfl
  | cons c cs ih =>
      have hsigma : asciiLower c = 'Σ' ↔ c = 'Σ' := asciiLower_eq_iff (by decide)
      rw [List.map_cons, lowerAfter, lowerAfter, ← List.map_cons, ih (c :: before)]
      simp only [hsigma, meetsCased_map_asciiLower, lowerChar_asciiLower]

theorem fold_lowerAscii (s : String) : fold (lowerAscii s) = fold s := by
  rw [fold, fold, toList_lowerAscii]
  exact congrArg String.ofList (lowerAfter_map_asciiLower [] s.toList)

theorem sameIgnoringAsciiCase_lowerAscii (s t : String) :
    sameIgnoringAsciiCase s (lowerAscii t) = sameIgnoringAsciiCase s t := by
  have htwice : asciiLower ∘ asciiLower = asciiLower := funext asciiLower_asciiLower
  rw [sameIgnoringAsciiCase, sameIgnoringAsciiCase, toList_lowerAscii, List.map_map, htwice]

theorem lowerAscii_lowerAscii (s : String) : lowerAscii (lowerAscii s) = lowerAscii s := by
  have htwice : asciiLower ∘ asciiLower = asciiLower := funext asciiLower_asciiLower
  rw [lowerAscii, toList_lowerAscii, List.map_map, htwice, lowerAscii]

theorem ofHexDigits_map_asciiLower (cs : List Char) :
    ofHexDigits (cs.map asciiLower) = ofHexDigits cs := by
  rw [ofHexDigits, List.foldl_map]
  simp only [hexDigitValue_asciiLower]
  rfl

theorem all_map_asciiLower {p : Char → Bool} (hp : ∀ c, p (asciiLower c) = p c)
    (cs : List Char) : (cs.map asciiLower).all p = cs.all p := by
  have hcase : p ∘ asciiLower = p := funext hp
  rw [List.all_map, hcase]

/-! ### Names from keys -/

section Keys

variable {c d : Char} {before cs : List Char}

/-- What a character becomes in lower case after the characters before it and before those that follow. -/
def lowerImage (before : List Char) (c : Char) (rest : List Char) : List Char :=
  if c = 'Σ' then [if meetsCased before && !meetsCased rest then 'ς' else 'σ'] else lowerChar c

theorem lowerAfter_cons (before : List Char) (c : Char) (cs : List Char) :
    lowerAfter before (c :: cs) = lowerImage before c cs ++ lowerAfter (c :: before) cs :=
  rfl

/-- The ASCII characters that come from other characters than letters of ASCII. -/
def isSharedImage (c : Char) : Bool :=
  c == 'i' || c == 'k'

theorem imageOf?_lowercase {n image : Nat} (h : imageOf? Unicode.lowercaseImages n = some image) :
    image.isValidChar ∧ (image < 128 → isSharedImage (Char.ofNat image) = true) := by
  have htable : ∀ row ∈ Unicode.lowercaseImages,
      (row.2.2.2 + (row.2.1 - row.1) < 0xD800 ∨
        0xE000 ≤ row.2.2.2 ∧ row.2.2.2 + (row.2.1 - row.1) < 0x110000) ∧
      (128 ≤ row.2.2.2 ∨ row.1 = row.2.1 ∧ isSharedImage (Char.ofNat row.2.2.2) = true) := by
    decide +kernel
  obtain ⟨⟨first, last, step, start⟩, hfind, rfl⟩ := Option.map_eq_some_iff.1 h
  obtain ⟨hvalid, hshared⟩ := htable _ (List.mem_of_find?_eq_some hfind)
  have hrow := List.find?_some hfind
  simp only [Bool.and_eq_true, decide_eq_true_eq] at hrow hvalid hshared ⊢
  refine ⟨?_, fun hlt => ?_⟩
  · rw [Nat.isValidChar]
    omega
  · obtain ⟨rfl, hstart⟩ := hshared.resolve_left (by omega)
    have hzero : n - first = 0 := by omega
    rwa [hzero, Nat.add_zero]

/-- Beyond ASCII there are no ASCII characters in images but two. -/
theorem isAscii_of_mem_lowerChar (hc : isAscii c = false) (hd : d ∈ lowerChar c) :
    isAscii d = false ∨ isSharedImage d = true := by
  have htable : ∀ row ∈ Unicode.lowercaseExpansions, ∀ n ∈ row.2,
      isAscii (Char.ofNat n) = false ∨ isSharedImage (Char.ofNat n) = true := by
    decide
  rw [lowerChar, if_neg (by rw [hc]; exact Bool.false_ne_true), mapCase] at hd
  split at hd
  · rename_i image hlookup
    obtain ⟨n, hn, rfl⟩ := List.mem_map.1 hd
    obtain ⟨front, others, htail, -⟩ := List.lookup_eq_some_iff.1 hlookup
    exact htable (c.toNat, image) (by rw [htail]; exact List.mem_append_right _ List.mem_cons_self) n hn
  · split at hd
    · rename_i image himage
      obtain ⟨hvalid, hshared⟩ := imageOf?_lowercase himage
      rw [List.mem_singleton.1 hd]
      by_cases hlt : image < 128
      · exact Or.inr (hshared hlt)
      · refine Or.inl (decide_eq_false ?_)
        rw [Char.ofNat, dif_pos hvalid]
        exact hlt
    · rw [List.mem_singleton.1 hd]
      exact Or.inl hc

theorem lowerChar_ne_nil (c : Char) : lowerChar c ≠ [] := by
  have htable : ∀ row ∈ Unicode.lowercaseExpansions, row.2 ≠ [] := by decide
  rw [lowerChar]
  split
  · exact List.cons_ne_nil _ _
  · rw [mapCase]
    split
    · rename_i image hlookup
      obtain ⟨front, others, htail, -⟩ := List.lookup_eq_some_iff.1 hlookup
      have hrow := htable (c.toNat, image) (by rw [htail]; exact List.mem_append_right _ List.mem_cons_self)
      exact mt List.map_eq_nil_iff.1 hrow
    · split <;> exact List.cons_ne_nil _ _

/-- The ASCII characters that come from ASCII characters only. -/
def IsPlain (d : Char) : Prop :=
  isAscii d = true ∧ isSharedImage d = false

/-- Where an image consists of such characters, it is the character in lower case. -/
theorem lowerImage_of_isPlain {rest : List Char} (h : ∀ d ∈ lowerImage before c rest, IsPlain d) :
    lowerImage before c rest = [asciiLower c] := by
  rw [lowerImage] at h ⊢
  split at h
  · have hsigma := (h _ List.mem_cons_self).1
    split at hsigma <;> cases hsigma
  · rename_i hc
    rw [if_neg hc]
    cases hascii : isAscii c with
    | true => rw [lowerChar, if_pos hascii]
    | false =>
        obtain ⟨d, ds, hd⟩ := List.exists_cons_of_ne_nil (lowerChar_ne_nil c)
        rw [hd] at h
        obtain ⟨hplain, hshared⟩ := h d List.mem_cons_self
        rcases isAscii_of_mem_lowerChar hascii (hd ▸ List.mem_cons_self) with hd | hd
        · rw [hd] at hplain
          cases hplain
        · rw [hd] at hshared
          cases hshared

/-- A name whose key consists of such characters is the key but for the case of letters. -/
theorem map_asciiLower_of_lowerAfter (h : ∀ d ∈ lowerAfter before cs, IsPlain d) :
    lowerAfter before cs = cs.map asciiLower := by
  induction cs generalizing before with
  | nil => rfl
  | cons c cs ih =>
      rw [lowerAfter_cons] at h ⊢
      rw [lowerImage_of_isPlain fun d hd => h d (List.mem_append_left _ hd),
        ih fun d hd => h d (List.mem_append_right _ hd)]
      rfl

theorem map_asciiLower_of_fold (ks : List Char) (hks : ∀ d ∈ ks, IsPlain d)
    (h : fold (String.ofList cs) = String.ofList ks) : cs.map asciiLower = ks := by
  have hlower : lower cs = ks := by
    rw [fold, String.toList_ofList] at h
    exact String.ofList_injective h
  rw [lower] at hlower
  rw [← hlower]
  refine (map_asciiLower_of_lowerAfter ?_).symm
  rwa [hlower]

/-- A character that is its own image stays in the key of a name. -/
theorem mem_lowerAfter (hsigma : c ≠ 'Σ') (hc : lowerChar c = [c]) (hmem : c ∈ cs) :
    c ∈ lowerAfter before cs := by
  induction cs generalizing before with
  | nil => cases hmem
  | cons d cs ih =>
      rw [lowerAfter_cons]
      rcases List.mem_cons.1 hmem with rfl | hmem
      · rw [lowerImage, if_neg hsigma, hc]
        exact List.mem_append_left _ List.mem_cons_self
      · exact List.mem_append_right _ (ih hmem)

end Keys

/-! ### Outside of literals -/

def isQuote (c : Char) : Bool :=
  c == '"' || c == '\''

/-- The text with the ASCII letters outside of its literals in lower case.  `quote?` is the quote of
the literal that the text starts inside of; a backslash in a literal hides the character after it,
and a literal that is not closed extends to the end. -/
def lowerOutside : (quote? : Option Char) → List Char → List Char
  | _, [] => []
  | none, c :: cs => asciiLower c :: lowerOutside (if isQuote c then some c else none) cs
  | some q, '\\' :: c :: cs => '\\' :: c :: lowerOutside (some q) cs
  | some q, c :: cs => c :: lowerOutside (if c = q then none else some q) cs

def lowerOutsideLiterals (s : String) : String :=
  .ofList (lowerOutside none s.toList)

/-- The texts differ at most in the case of ASCII letters outside of literals. -/
def SameOutsideLiterals (s t : String) : Prop :=
  lowerOutsideLiterals s = lowerOutsideLiterals t

theorem map_lowerOutside (quote? : Option Char) (cs : List Char) :
    (lowerOutside quote? cs).map asciiLower = cs.map asciiLower := by
  fun_induction lowerOutside quote? cs <;> simp_all [asciiLower_asciiLower]

theorem length_lowerOutside (quote? : Option Char) (cs : List Char) :
    (lowerOutside quote? cs).length = cs.length := by
  have hlength := congrArg List.length (map_lowerOutside quote? cs)
  rwa [List.length_map, List.length_map] at hlength

theorem length_lowerOutsideLiterals (s : String) :
    (lowerOutsideLiterals s).length = s.length := by
  rw [lowerOutsideLiterals, String.length_ofList, length_lowerOutside, String.length_toList]

theorem isQuote_asciiLower (c : Char) : isQuote (asciiLower c) = isQuote c :=
  eq_asciiLower isQuote (by decide) c

theorem lowerOutside_cons {c : Char} (hc : isQuote c = false) (cs : List Char) :
    lowerOutside none (c :: cs) = asciiLower c :: lowerOutside none cs := by
  rw [lowerOutside, hc]
  rfl

theorem lowerOutside_quote {c : Char} (hc : isQuote c = true) (cs : List Char) :
    lowerOutside none (c :: cs) = asciiLower c :: lowerOutside (some c) cs := by
  rw [lowerOutside, hc]
  rfl

theorem lowerOutside_append {xs : List Char} (hxs : ∀ c ∈ xs, isQuote c = false)
    (cs : List Char) :
    lowerOutside none (xs ++ cs) = xs.map asciiLower ++ lowerOutside none cs := by
  induction xs with
  | nil => rfl
  | cons c xs ih =>
      rw [List.cons_append, lowerOutside_cons (hxs c List.mem_cons_self),
        ih fun d hd => hxs d (List.mem_cons_of_mem c hd)]
      rfl

section Spans

variable {p : Char → Bool} (hp : ∀ c, p (asciiLower c) = p c)
variable (hquote : ∀ c, isQuote c = true → p c = false)
include hp hquote

theorem takeWhile_lowerOutside (cs : List Char) :
    (lowerOutside none cs).takeWhile p = (cs.takeWhile p).map asciiLower := by
  induction cs with
  | nil => rfl
  | cons c cs ih =>
      cases hc : isQuote c with
      | true =>
          rw [lowerOutside_quote hc, List.takeWhile_cons, List.takeWhile_cons, hp, hquote c hc]
          rfl
      | false =>
          rw [lowerOutside_cons hc, List.takeWhile_cons, List.takeWhile_cons, hp, ih]
          split <;> rfl

theorem dropWhile_lowerOutside (cs : List Char) :
    (lowerOutside none cs).dropWhile p = lowerOutside none (cs.dropWhile p) := by
  induction cs with
  | nil => rfl
  | cons c cs ih =>
      cases hc : isQuote c with
      | true =>
          rw [lowerOutside_quote hc, List.dropWhile_cons, List.dropWhile_cons, hp, hquote c hc,
            if_neg Bool.false_ne_true, if_neg Bool.false_ne_true, lowerOutside_quote hc]
      | false =>
          rw [lowerOutside_cons hc, List.dropWhile_cons, List.dropWhile_cons, hp, ih]
          split
          · rfl
          · rw [lowerOutside_cons hc]

end Spans

/-- A part at the front of a text that does not reach into a literal. -/
structure IsFront (part cs : List Char) : Prop where
  isPrefix : part <+: cs
  quotes : ∀ c ∈ part, isQuote c = false

theorem isFront_nil (cs : List Char) : IsFront [] cs :=
  ⟨List.nil_prefix, nofun⟩

theorem isFront_takeWhile {p : Char → Bool} (hquote : ∀ c, isQuote c = true → p c = false)
    (cs : List Char) : IsFront (cs.takeWhile p) cs := by
  refine ⟨List.takeWhile_prefix p, ?_⟩
  intro c hc
  cases hq : isQuote c with
  | false => rfl
  | true =>
      have hpc : p c = true := List.all_eq_true.mp List.all_takeWhile c hc
      rw [hquote c hq] at hpc
      cases hpc

theorem IsFront.cons {c : Char} {part cs : List Char} (hc : isQuote c = false)
    (h : IsFront part cs) : IsFront (c :: part) (c :: cs) := by
  refine ⟨List.cons_prefix_cons.mpr ⟨rfl, h.isPrefix⟩, ?_⟩
  intro d hd
  cases hd with
  | head => exact hc
  | tail _ hd => exact h.quotes d hd

theorem IsFront.append {part part' cs : List Char} (h : IsFront part cs)
    (h' : IsFront part' (cs.drop part.length)) : IsFront (part ++ part') cs := by
  obtain ⟨rest, rfl⟩ := h.isPrefix
  rw [List.drop_left] at h'
  obtain ⟨rest', rfl⟩ := h'.isPrefix
  refine ⟨⟨rest', List.append_assoc ..⟩, ?_⟩
  intro c hc
  cases List.mem_append.mp hc with
  | inl hc => exact h.quotes c hc
  | inr hc => exact h'.quotes c hc

theorem IsFront.drop {part cs : List Char} (h : IsFront part cs) :
    (lowerOutside none cs).drop part.length = lowerOutside none (cs.drop part.length) := by
  obtain ⟨rest, rfl⟩ := h.isPrefix
  rw [lowerOutside_append h.quotes, List.drop_left]
  exact List.drop_left' (List.length_map ..)

theorem drop_length_takeWhile (p : Char → Bool) (cs : List Char) :
    cs.drop (cs.takeWhile p).length = cs.dropWhile p := by
  have hdrop : (cs.takeWhile p ++ cs.dropWhile p).drop (cs.takeWhile p).length = cs.dropWhile p :=
    List.drop_left
  rwa [List.takeWhile_append_dropWhile] at hdrop

end Elementwise.Text
