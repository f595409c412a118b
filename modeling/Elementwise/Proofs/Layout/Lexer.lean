import Elementwise.Proofs.Outcome
import Elementwise.Proofs.Tokens.Tiling
import Mathlib.Data.List.TakeWhile

/-!
Tokens set apart by white space.  A token that a text starts with is read the same from its spelling
alone, whatever white space comes after it.  So a text that consists of the spellings of given tokens
in their order, with white space between them, has those tokens again.
-/

namespace Elementwise.Token

open Text Number

/-! ### White space -/

/-- The characters that are white space. -/
def spaces : List Char :=
  whiteSpaceRanges.flatMap fun (first, last) =>
    (List.range' first (last + 1 - first)).map Char.ofNat

theorem mem_spaces {c : Char} (h : isSpace c = true) : c ∈ spaces := by
  obtain ⟨⟨first, last⟩, hrange, hc⟩ := List.any_eq_true.1 h
  simp only [Bool.and_eq_true, decide_eq_true_eq] at hc
  refine List.mem_flatMap.2 ⟨(first, last), hrange, List.mem_map.2 ⟨c.toNat, ?_, c.ofNat_toNat⟩⟩
  rw [List.mem_range'_1]
  omega

theorem eq_false_of_isSpace {p : Char → Bool} (h : (spaces.all fun c => !p c) = true) (c : Char)
    (hc : isSpace c = true) : p c = false := by
  have hp := List.all_eq_true.1 h c (mem_spaces hc)
  rwa [Bool.not_eq_true'] at hp

theorem isNamePart_of_isSpace : ∀ c, isSpace c = true → isNamePart c = false :=
  eq_false_of_isSpace (by decide +kernel)

theorem isAsciiDigit_of_isSpace : ∀ c, isSpace c = true → isAsciiDigit c = false :=
  eq_false_of_isSpace (by decide +kernel)

theorem isAsciiHexDigit_of_isSpace : ∀ c, isSpace c = true → isAsciiHexDigit c = false :=
  eq_false_of_isSpace (by decide +kernel)

/-- Nothing follows, or white space does. -/
def Parted (rest : List Char) : Prop :=
  ∀ c ∈ rest.head?, isSpace c = true

variable {u rest rest' : List Char} {p : Char → Bool}

theorem Parted.any_getElem? (h : Parted rest) (hp : ∀ c, isSpace c = true → p c = false) :
    rest[0]?.any p = false := by
  cases rest with
  | nil => rfl
  | cons c rest => exact hp c (h c rfl)

theorem Parted.takeWhile_eq_nil (h : Parted rest) (hp : ∀ c, isSpace c = true → p c = false) :
    rest.takeWhile p = [] := by
  cases rest with
  | nil => rfl
  | cons c rest =>
      rw [List.takeWhile_cons_of_neg]
      rw [hp c (h c rfl)]
      exact Bool.false_ne_true

/-! ### Parts at the front of a text -/

/-- A part at the front of a text that is the same whatever comes after it, as long as that is set
off by white space. -/
structure Local (part : List Char → List Char) : Prop where
  isPrefix : ∀ cs, part cs <+: cs
  same : ∀ u rest rest', Parted rest' → (part (u ++ rest)).length ≤ u.length →
    part (u ++ rest') = part (u ++ rest)

variable {part part' : List Char → List Char}

theorem Local.eq_nil (h : Local part) (hrest : Parted rest') (hnil : part (u ++ rest) = []) :
    part (u ++ rest') = [] :=
  (h.same u rest rest' hrest (hnil ▸ Nat.zero_le _)).trans hnil

theorem local_takeWhile (hp : ∀ c, isSpace c = true → p c = false) : Local (List.takeWhile p) where
  isPrefix _ := List.takeWhile_prefix p
  same u rest rest' hrest hlength := by
    induction u with
    | nil =>
        have hnil : rest.takeWhile p = [] := List.eq_nil_of_length_eq_zero (Nat.le_zero.1 hlength)
        exact (hrest.takeWhile_eq_nil hp).trans hnil.symm
    | cons a u ih =>
        rw [List.cons_append, List.takeWhile_cons] at hlength
        rw [List.cons_append, List.cons_append, List.takeWhile_cons, List.takeWhile_cons]
        split at hlength
        · rename_i ha
          rw [if_pos ha, if_pos ha, ih (Nat.le_of_succ_le_succ hlength)]
        · rename_i ha
          rw [if_neg ha, if_neg ha]

/-- A part that follows a leading character, which is nothing without it. -/
def led (p : Char → Bool) (part : List Char → List Char) : List Char → List Char
  | [] => []
  | c :: cs => if p c && !(part cs).isEmpty then c :: part cs else []

theorem local_led (hp : ∀ c, isSpace c = true → p c = false) (h : Local part) :
    Local (led p part) where
  isPrefix cs := by
    cases cs with
    | nil => exact List.prefix_rfl
    | cons c cs =>
        rw [led]
        split
        · exact (List.prefix_cons_inj c).2 (h.isPrefix cs)
        · exact List.nil_prefix
  same u rest rest' hrest hlength := by
    cases u with
    | nil =>
        have hnil : led p part rest = [] := List.eq_nil_of_length_eq_zero (Nat.le_zero.1 hlength)
        rw [List.nil_append, List.nil_append, hnil]
        cases rest' with
        | nil => rfl
        | cons c rest' => rw [led, hp c (hrest c rfl)]; rfl
    | cons a u =>
        rw [List.cons_append, led] at hlength
        rw [List.cons_append, List.cons_append, led, led]
        split at hlength
        · rw [h.same u rest rest' hrest (Nat.le_of_succ_le_succ hlength)]
        · rename_i hnot
          cases ha : p a with
          | false => rfl
          | true =>
              have hnil : part (u ++ rest) = [] := by simpa [ha] using hnot
              rw [h.eq_nil hrest hnil, hnil]

/-- The first of two parts that is there. -/
def firstOf (part part' : List Char → List Char) (cs : List Char) : List Char :=
  if (part cs).isEmpty then part' cs else part cs

theorem local_firstOf (h : Local part) (h' : Local part') : Local (firstOf part part') where
  isPrefix cs := by
    rw [firstOf]
    split
    · exact h'.isPrefix cs
    · exact h.isPrefix cs
  same u rest rest' hrest hlength := by
    rw [firstOf] at hlength
    rw [firstOf, firstOf]
    split at hlength
    · rename_i hempty
      have hnil := List.isEmpty_iff.1 hempty
      rw [h.eq_nil hrest hnil, hnil]
      exact h'.same u rest rest' hrest hlength
    · rw [h.same u rest rest' hrest hlength, if_neg (by assumption), if_neg (by assumption)]

/-- What comes after a local part comes after it before other white space too. -/
theorem Local.split (h : Local part) (hrest : Parted rest') (u rest : List Char)
    (hlength : (part (u ++ rest)).length ≤ u.length) :
    ∃ u', u.length = (part (u ++ rest)).length + u'.length ∧
      part (u ++ rest') = part (u ++ rest) ∧
      (u ++ rest).drop (part (u ++ rest)).length = u' ++ rest ∧
      (u ++ rest').drop (part (u ++ rest)).length = u' ++ rest' := by
  obtain ⟨u', hu⟩ := List.prefix_of_prefix_length_le (h.isPrefix (u ++ rest))
    (List.prefix_append u rest) hlength
  have hsame := h.same u rest rest' hrest hlength
  generalize part (u ++ rest) = w at hu hsame ⊢
  subst hu
  refine ⟨u', List.length_append, hsame, ?_, ?_⟩
  · rw [List.append_assoc, List.drop_left]
  · rw [List.append_assoc, List.drop_left]

/-! ### Numbers -/

theorem local_digits : Local (List.takeWhile isAsciiDigit) :=
  local_takeWhile isAsciiDigit_of_isSpace

theorem any_getElem?_zero (p : Char → Bool) (cs : List Char) :
    cs[0]?.any p = !(cs.takeWhile p).isEmpty := by
  cases cs with
  | nil => rfl
  | cons c cs => cases hc : p c <;> simp [hc]

theorem fractionPart_eq_led :
    fractionPart = led (· == '.') (List.takeWhile isAsciiDigit) := by
  funext cs
  cases cs with
  | nil => rfl
  | cons a cs =>
      rw [fractionPart_eq, led, ← any_getElem?_zero]
      cases ha : a == '.' with
      | false => simp [ha]
      | true => simp [beq_iff_eq.1 ha]

theorem exponentPart_eq_led :
    exponentPart = led isExponentLetter
      (firstOf (List.takeWhile isAsciiDigit) (led isSign (List.takeWhile isAsciiDigit))) := by
  funext cs
  rw [exponentPart_eq]
  rcases cs with _ | ⟨a, _ | ⟨s, cs⟩⟩
  · rfl
  · simp [led, firstOf]
  · have hdigit := any_getElem?_zero isAsciiDigit cs
    cases ha : isExponentLetter a <;> cases hd : isAsciiDigit s <;> cases hs : isSign s <;>
      cases hds : cs.takeWhile isAsciiDigit <;> simp [led, firstOf, ha, hd, hs, hds, hdigit]

theorem local_fractionPart : Local fractionPart := by
  rw [fractionPart_eq_led]
  exact local_led (eq_false_of_isSpace (by decide +kernel)) local_digits

theorem local_exponentPart : Local exponentPart := by
  rw [exponentPart_eq_led]
  exact local_led (eq_false_of_isSpace (by decide +kernel)) (local_firstOf local_digits
    (local_led (eq_false_of_isSpace (by decide +kernel)) local_digits))

theorem local_hexDigits : Local (List.takeWhile isAsciiHexDigit) :=
  local_takeWhile isAsciiHexDigit_of_isSpace

theorem local_name : Local (List.takeWhile isNamePart) :=
  local_takeWhile isNamePart_of_isSpace

theorem isHexStart_local (hrest : Parted rest')
    (h : isHexStart (u ++ rest) = true → 3 ≤ u.length) :
    isHexStart (u ++ rest') = isHexStart (u ++ rest) := by
  have hshort : u.length < 3 → isHexStart (u ++ rest) = false := fun hlt =>
    Bool.eq_false_iff.2 fun hhex => absurd (h hhex) (Nat.not_le.2 hlt)
  have hzero := hrest.any_getElem? (p := (· == '0')) (eq_false_of_isSpace (by decide +kernel))
  have hletter := hrest.any_getElem? (p := isHexLetter) (eq_false_of_isSpace (by decide +kernel))
  have hdigit := hrest.any_getElem? isAsciiHexDigit_of_isSpace
  rcases u with _ | ⟨a, _ | ⟨x, _ | ⟨d, u⟩⟩⟩
  · rw [hshort (by decide), isHexStart_eq, List.nil_append, hzero]
    rfl
  · rw [hshort (by simp), isHexStart_eq, List.cons_append, List.nil_append,
      List.getElem?_cons_succ, hletter, Bool.and_false]
    rfl
  · rw [hshort (by simp), isHexStart_eq]
    show (_ && rest'[0]?.any isAsciiHexDigit) = false
    rw [hdigit, Bool.and_false]
  · rw [isHexStart_eq, isHexStart_eq]
    rfl

/-- A hexadecimal number is longer than its mark. -/
theorem three_le_length_numberPart {cs : List Char} (h : isHexStart cs = true) :
    3 ≤ (numberPart cs).1.length := by
  rw [numberPart, if_pos h]
  rcases cs with _ | ⟨a, _ | ⟨x, _ | ⟨d, cs⟩⟩⟩
  · cases h
  · simp [isHexStart] at h
  · simp [isHexStart] at h
  · have hd : isAsciiHexDigit d = true := by
      rw [isHexStart_eq, Bool.and_eq_true] at h
      exact h.2
    simp [hd]

/-- A number is read the same from its spelling and what white space sets off from it. -/
theorem numberPart_local (hrest : Parted rest') (h : (numberPart (u ++ rest)).1 = u) :
    numberPart (u ++ rest') = numberPart (u ++ rest) := by
  have hlong : isHexStart (u ++ rest) = true → 3 ≤ u.length := fun hhex =>
    Nat.le_trans (three_le_length_numberPart hhex) (Nat.le_of_eq (congrArg List.length h))
  have hhex := isHexStart_local hrest hlong
  have hlength := congrArg List.length h
  unfold numberPart at hlength ⊢
  rw [hhex]
  split
  · rename_i hstart
    rw [if_pos hstart] at hlength
    rcases u with _ | ⟨a, _ | ⟨x, u⟩⟩
    · exact absurd (hlong hstart) (by simp)
    · exact absurd (hlong hstart) (by simp)
    have htake : ∀ cs, (a :: x :: u ++ cs).take 2 = [a, x] := fun cs => rfl
    have hdrop : ∀ cs, (a :: x :: u ++ cs).drop 2 = u ++ cs := fun cs => rfl
    simp only [htake, hdrop, List.length_append, List.length_cons, List.length_nil,
      ← drop_length_takeWhile isAsciiHexDigit] at hlength ⊢
    obtain ⟨u₁, hu, hdigits, hafter, hafter'⟩ := local_hexDigits.split hrest u rest
      (by omega)
    simp only [hdigits, hafter, hafter'] at hlength ⊢
    rw [local_name.same u₁ rest rest' hrest (by omega)]
  · rename_i hstart
    rw [if_neg hstart] at hlength
    simp only [List.length_append, ← drop_length_takeWhile isAsciiDigit] at hlength ⊢
    obtain ⟨u₁, hu, hwhole, hafter, hafter'⟩ := local_digits.split hrest u rest
      (by omega)
    simp only [hwhole, hafter, hafter'] at hlength ⊢
    obtain ⟨u₂, hu₁, hfraction, hafter, hafter'⟩ := local_fractionPart.split hrest u₁
      rest (by omega)
    simp only [hfraction, hafter, hafter'] at hlength ⊢
    obtain ⟨u₃, hu₂, hexponent, hafter, hafter'⟩ := local_exponentPart.split hrest u₂
      rest (by omega)
    simp only [hexponent, hafter, hafter'] at hlength ⊢
    rw [local_name.same u₃ rest rest' hrest (by omega)]

/-! ### Literals -/

/-- A literal is read the same whatever comes after its closing quote. -/
theorem literalBody_local {quote : Char} (hquote : quote ≠ '\\') {distance : Nat}
    {cs body : List Char} (h : literalBody quote distance cs = .ok (body, rest)) :
    ∃ u, cs = u ++ rest ∧
      ∀ rest', literalBody quote distance (u ++ rest') = .ok (body, rest') := by
  fun_induction literalBody quote distance cs generalizing body with
  | case1 => cases h
  | case2 distance a b c d cs e hcode ih =>
      obtain ⟨⟨body, rest⟩, hcs, hread⟩ := map_eq_ok h
      cases hread
      obtain ⟨u, rfl, hu⟩ := ih hcs
      refine ⟨'\\' :: 'u' :: a :: b :: c :: d :: u, rfl, fun rest' => ?_⟩
      show literalBody quote distance ('\\' :: 'u' :: a :: b :: c :: d :: (u ++ rest')) = _
      rw [literalBody, hcode]
      exact congrArg (Except.map _) (hu rest')
  | case3 | case4 | case7 => cases h
  | case5 => cases h
  | case6 distance c cs hu e hescape ih =>
      obtain ⟨⟨body, rest⟩, hcs, hread⟩ := map_eq_ok h
      cases hread
      obtain ⟨u, rfl, hread⟩ := ih hcs
      refine ⟨'\\' :: c :: u, rfl, fun rest' => ?_⟩
      show literalBody quote distance ('\\' :: c :: (u ++ rest')) = _
      rw [literalBody, hescape]
      · exact congrArg (Except.map _) (hread rest')
      · exact hu
  | case8 =>
      cases h
      exact ⟨[quote], rfl, fun rest' => literalBody_close hquote _ rest'⟩
  | case9 distance c cs _ hend hlong hc ih =>
      have hb : c ≠ '\\' := by
        rintro rfl
        cases cs with
        | nil => exact hend rfl rfl
        | cons d cs => exact hlong d cs rfl rfl
      obtain ⟨⟨body, rest⟩, hcs, hread⟩ := map_eq_ok h
      cases hread
      obtain ⟨u, rfl, hread⟩ := ih hcs
      refine ⟨c :: u, rfl, fun rest' => ?_⟩
      rw [List.cons_append, literalBody_content hb hc, hread]
      rfl

/-! ### Operators and delimiters -/

/-- What has no white space in it ends before white space. -/
theorem Parted.isPrefix_of_append (hrest : Parted rest') {cs : List Char}
    (hcs : ∀ c ∈ cs, isSpace c = false) (h : cs <+: u ++ rest') : cs <+: u := by
  induction u generalizing cs with
  | nil =>
      cases cs with
      | nil => exact List.nil_prefix
      | cons c cs =>
          obtain ⟨tail, rfl⟩ := h
          have hspace := hrest c rfl
          rw [hcs c List.mem_cons_self] at hspace
          cases hspace
  | cons a u ih =>
      cases cs with
      | nil => exact List.nil_prefix
      | cons c cs =>
          obtain ⟨rfl, hfront⟩ := List.cons_prefix_cons.1 h
          refine (List.prefix_cons_inj c).2 (ih (fun d hd => ?_) hfront)
          exact hcs d (List.mem_cons_of_mem c hd)

theorem isSpace_of_mem_spelling {e : String × Punctuator} (he : e ∈ Punctuator.spellings) :
    ∀ c ∈ e.1.toList, isSpace c = false := by
  have hall : (Punctuator.spellings.all fun e => e.1.toList.all fun c => !isSpace c) = true := by
    decide +kernel
  intro c hc
  have hchar := List.all_eq_true.1 (List.all_eq_true.1 hall e he) c hc
  rwa [Bool.not_eq_true'] at hchar

/-- The operator or delimiter that a text starts with is still the one when white space comes right
after it. -/
theorem ofPrefix?_local {spelling : String} {s : Punctuator} (hrest : Parted rest')
    (h : Punctuator.ofPrefix? (spelling.toList ++ rest) = some (spelling, s)) :
    Punctuator.ofPrefix? (spelling.toList ++ rest') = some (spelling, s) := by
  obtain ⟨-, before, after, hsplit, hnot⟩ := List.find?_eq_some_iff_append.1 h
  refine List.find?_eq_some_iff_append.2 ⟨?_, before, after, hsplit, fun e he => ?_⟩
  · exact List.isPrefixOf_iff_prefix.2 (List.prefix_append _ _)
  · have hmem : e ∈ Punctuator.spellings := hsplit ▸ List.mem_append_left _ he
    have hbefore := hnot e he
    rw [Bool.not_eq_true', ← Bool.not_eq_true, List.isPrefixOf_iff_prefix] at hbefore ⊢
    intro hfront
    have hspelling := hrest.isPrefix_of_append (isSpace_of_mem_spelling hmem) hfront
    exact hbefore (hspelling.trans (List.prefix_append _ _))

/-! ### Tokens -/

variable {t : Token} {offset : Nat} {c : Char} {cs : List Char}

/-- The token is read from its spelling wherever that stands, with white space or nothing after it. -/
def Standalone (t : Token) : Prop :=
  ∃ c cs, t.spelling.toList = c :: cs ∧ isSpace c = false ∧ ∀ offset rest, Parted rest →
    next offset c (cs ++ rest) = .ok (⟨t.lexeme, t.spelling, offset⟩, rest)

/-- What was taken off a text is found again from how much of it is left. -/
theorem take_taken (c : Char) (u rest : List Char) :
    (c :: u ++ rest).take ((u ++ rest).length + 1 - rest.length) = c :: u := by
  have hlength : (u ++ rest).length + 1 - rest.length = (c :: u).length := by
    rw [List.length_append, List.length_cons]
    omega
  rw [hlength, List.take_left]

theorem next_standalone (h : next offset c cs = .ok (t, rest)) (hc : isSpace c = false) :
    t.Standalone := by
  obtain ⟨-, hspelled, hne⟩ := next_heads h
  obtain ⟨a, cs', hcs'⟩ := List.exists_cons_of_ne_nil hne
  rw [hcs', List.cons_append] at hspelled
  obtain ⟨rfl, rfl⟩ := List.cons.inj hspelled
  refine ⟨c, cs', hcs', hc, fun offset' rest' hrest => ?_⟩
  unfold next at h ⊢
  simp only [← List.cons_append] at h ⊢
  split at h
  · rename_i hquote
    rw [if_pos hquote]
    have hback : c ≠ '\\' := by
      rintro rfl
      exact absurd hquote (by decide)
    split at h
    · rename_i body rest₀ hbody
      obtain ⟨rfl, rfl⟩ := Prod.mk.inj (Except.ok.inj h)
      obtain ⟨u, hu, hread⟩ := literalBody_local hback hbody
      obtain rfl := List.append_cancel_right hu
      rw [hread rest']
      dsimp only
      rw [take_taken, take_taken]
    · cases h
  rename_i hquote
  rw [if_neg hquote]
  split at h
  · rename_i hname
    obtain ⟨rfl, -⟩ := Prod.mk.inj (Except.ok.inj h)
    have hu : (c :: cs' ++ rest).takeWhile isNamePart = c :: cs' :=
      String.toList_ofList.symm.trans hcs'
    have hu' := local_name.same _ rest rest' hrest
      (Nat.le_of_eq (congrArg List.length hu))
    have hdrop : (c :: cs' ++ rest').dropWhile isNamePart = rest' := by
      rw [← drop_length_takeWhile, hu', hu, List.drop_left]
    rw [if_pos hname, hu', hdrop]
  rename_i hname
  rw [if_neg hname]
  split at h
  · rename_i hdigit
    rw [if_pos hdigit]
    split at h
    · rename_i n hn
      obtain ⟨rfl, -⟩ := Prod.mk.inj (Except.ok.inj h)
      have hu : (numberPart (c :: cs' ++ rest)).1 = c :: cs' :=
        String.toList_ofList.symm.trans hcs'
      rw [numberPart_local hrest hu]
      dsimp only
      rw [hn]
      dsimp only
      rw [hu, List.drop_left]
    · cases h
  rename_i hdigit
  rw [if_neg hdigit]
  split at h
  · rename_i spelling s hs
    obtain ⟨rfl, -⟩ := Prod.mk.inj (Except.ok.inj h)
    have hcs' : spelling.toList = c :: cs' := hcs'
    rw [← hcs'] at hs ⊢
    rw [ofPrefix?_local hrest hs]
    dsimp only
    rw [← String.length_toList, List.drop_left]
  · cases h

theorem scanFrom_standalone {fuel : Nat} :
    ∀ t ∈ (scanFrom fuel offset cs).tokens, t.Standalone := by
  induction fuel generalizing offset cs with
  | zero => exact List.forall_mem_nil _
  | succ fuel ih =>
      unfold scanFrom
      dsimp only
      cases hrest : cs.dropWhile isSpace with
      | nil => exact List.forall_mem_nil _
      | cons c tail =>
          have hc : isSpace c = false := by
            have hhead := List.head_dropWhile_not isSpace (l := cs) (by simp [hrest])
            simpa [hrest] using hhead
          dsimp only
          cases hnext : next (offset + (cs.takeWhile isSpace).length) c tail with
          | error e => exact List.forall_mem_nil _
          | ok found => exact List.forall_mem_cons.2 ⟨next_standalone hnext hc, ih⟩

/-! ### Texts -/

/-- The text consists of the words in their order, with white space between each word and the next
one, and possibly before the first one and after the last one. -/
inductive Spaced : List String → List Char → Prop where
  | finish (blank : List Char) (hblank : ∀ c ∈ blank, isSpace c = true) : Spaced [] blank
  | word (blank : List Char) (w : String) {ws : List String} {rest : List Char}
      (hblank : ∀ c ∈ blank, isSpace c = true) (hparted : Parted rest) (h : Spaced ws rest) :
      Spaced (w :: ws) (blank ++ (w.toList ++ rest))

/-- What a token is, wherever it stands. -/
def content (t : Token) : Lexeme × String :=
  (t.lexeme, t.spelling)

/-- Tokens are read again from a text that consists of their spellings. -/
theorem scanFrom_spaced {ts : List Token} (hts : ∀ t ∈ ts, t.Standalone)
    (hcs : Spaced (ts.map (·.spelling)) cs) {fuel : Nat} (hfuel : cs.length < fuel) :
    (scanFrom fuel offset cs).tokens.map content = ts.map content ∧
      ∃ stop, (scanFrom fuel offset cs).outcome = .ok stop := by
  induction ts generalizing cs fuel offset with
  | nil =>
      obtain ⟨fuel, rfl⟩ := Nat.exists_eq_succ_of_ne_zero (Nat.ne_of_gt (Nat.zero_lt_of_lt hfuel))
      cases hcs with
      | finish _ hblank =>
          have hrest : cs.dropWhile isSpace = [] := List.dropWhile_eq_nil_iff.2 hblank
          rw [scanFrom, hrest]
          exact ⟨rfl, _, rfl⟩
  | cons t ts ih =>
      obtain ⟨fuel, rfl⟩ := Nat.exists_eq_succ_of_ne_zero (Nat.ne_of_gt (Nat.zero_lt_of_lt hfuel))
      obtain ⟨⟨c, tail, hspelling, hc, hnext⟩, hts⟩ := List.forall_mem_cons.1 hts
      rw [List.map_cons] at hcs
      cases hcs with
      | @word blank _ _ rest hblank hparted h =>
          have hdrop : (blank ++ (t.spelling.toList ++ rest)).dropWhile isSpace =
              c :: (tail ++ rest) := by
            rw [List.dropWhile_append_of_pos hblank, hspelling, List.cons_append,
              List.dropWhile_cons_of_neg (by rw [hc]; exact Bool.false_ne_true)]
          have hshort : rest.length < fuel := by
            rw [List.length_append, List.length_append, hspelling, List.length_cons] at hfuel
            omega
          rw [scanFrom, hdrop]
          dsimp only
          rw [hnext _ rest hparted]
          obtain ⟨htokens, hstop⟩ := ih hts h hshort
          exact ⟨congrArg ((t.lexeme, t.spelling) :: ·) htokens, hstop⟩

/-- The second text consists of the spellings of the tokens of the first, which is read to its end,
with white space between them. -/
def Respaced (text text' : String) : Prop :=
  (∃ stop, (scan text).outcome = .ok stop) ∧
    Spaced ((scan text).tokens.map (·.spelling)) text'.toList

/-- A text with other white space between its tokens has the same tokens. -/
theorem scan_of_respaced {text text' : String} (h : Respaced text text') :
    (scan text').tokens.map content = (scan text).tokens.map content ∧
      ∃ stop, (scan text').outcome = .ok stop :=
  scanFrom_spaced scanFrom_standalone h.2 (by rw [String.length_toList]; exact Nat.lt_succ_self _)

end Elementwise.Token
