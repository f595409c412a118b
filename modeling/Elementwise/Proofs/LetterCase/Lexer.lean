import Elementwise.Proofs.LetterCase.Text
import Elementwise.Proofs.Outcome
import Elementwise.Token.Lexer
import Mathlib.Data.List.Find

/-!
# Tokens of a text in lower case

Lowering the case of a text outside of its literals lowers the names and spellings of its tokens and
changes nothing else: the same keywords, numbers and literals stand at the same offsets, and the
text fails to be lexed at the same place for the same reason.
-/

namespace Elementwise

open Text

/-- The error with the text that it quotes in lower case. -/
def LexError.lower : LexError → LexError
  | invalidNumber spelling offset => invalidNumber (lowerAscii spelling) offset
  | e => e

namespace Token

/-- The token with its name and its spelling in lower case, unless it is a text literal. -/
def lower (t : Token) : Token :=
  match t.lexeme with
  | .string _ | .char _ => t
  | .identifier name => ⟨.identifier (lowerAscii name), lowerAscii t.spelling, t.offset⟩
  | l => ⟨l, lowerAscii t.spelling, t.offset⟩

/-! ### Text literals -/

/-- The content of a literal is read unchanged, and what follows it is lowered. -/
inductive LiteralTracks (quote : Char) (cs : List Char) :
    Except LiteralError (List Char × List Char) →
      Except LiteralError (List Char × List Char) → Prop where
  | ok (used body rest : List Char) (hcs : cs = used ++ rest)
      (hlower : lowerOutside (some quote) cs = used ++ lowerOutside none rest) :
      LiteralTracks quote cs (.ok (body, rest)) (.ok (body, lowerOutside none rest))
  | error (e : LiteralError) : LiteralTracks quote cs (.error e) (.error e)

theorem LiteralTracks.append (used : List Char) {quote e : Char} {cs : List Char}
    {o o' : Except LiteralError (List Char × List Char)} (h : LiteralTracks quote cs o o')
    (hused : lowerOutside (some quote) (used ++ cs) = used ++ lowerOutside (some quote) cs) :
    LiteralTracks quote (used ++ cs) (o.map fun (body, rest) => (e :: body, rest))
      (o'.map fun (body, rest) => (e :: body, rest)) := by
  cases h with
  | ok used' body rest hcs hlower =>
      refine .ok (used ++ used') (e :: body) rest ?_ ?_
      · rw [hcs, List.append_assoc]
      · rw [hused, hlower, List.append_assoc]
  | error e => exact .error e

theorem lowerOutside_backslash (quote c : Char) (cs : List Char) :
    lowerOutside (some quote) ('\\' :: c :: cs) = '\\' :: c :: lowerOutside (some quote) cs := by
  rw [lowerOutside]

theorem lowerOutside_content {quote c : Char} (hc : c ≠ quote) (hb : c ≠ '\\') (cs : List Char) :
    lowerOutside (some quote) (c :: cs) = c :: lowerOutside (some quote) cs := by
  rw [lowerOutside, if_neg hc]
  exact fun _ _ h => absurd h hb

theorem eq_of_isQuote {c : Char} (h : isQuote c = true) : c = '"' ∨ c = '\'' := by
  simpa [isQuote] using h

theorem isAsciiHexDigit_of_isQuote (c : Char) (h : isQuote c = true) :
    isAsciiHexDigit c = false := by
  obtain rfl | rfl := eq_of_isQuote h <;> rfl

/-- The digits of a character code are neither quotes nor backslashes. -/
theorem codeEscape?_eq_some {a b c d e : Char} (h : codeEscape? [a, b, c, d] = some e) :
    ∀ x ∈ [a, b, c, d], isAsciiHexDigit x = true := by
  simp only [codeEscape?] at h
  split at h
  · next hd =>
      rw [Bool.and_eq_true] at hd
      exact List.all_eq_true.mp hd.1
  · cases h

theorem codeEscape?_map_asciiLower (cs : List Char) :
    codeEscape? (cs.map asciiLower) = codeEscape? cs := by
  have hdigits : ∀ ds : List Char, (ds.map asciiLower).all isAsciiHexDigit = ds.all isAsciiHexDigit :=
    all_map_asciiLower isAsciiHexDigit_asciiLower
  match cs with
  | [] | [_] | [_, _] | [_, _, _] | _ :: _ :: _ :: _ :: _ :: _ => rfl
  | [a, b, c, d] =>
    have hd := hdigits [a, b, c, d]
    have hn := ofHexDigits_map_asciiLower [a, b, c, d]
    simp only [List.map_cons, List.map_nil] at hd hn ⊢
    simp only [codeEscape?, hd, hn]

theorem lowerOutside_code {quote : Char} (hquote : isQuote quote = true) {a b c d e : Char}
    (h : codeEscape? [a, b, c, d] = some e) (cs : List Char) :
    lowerOutside (some quote) ('\\' :: 'u' :: a :: b :: c :: d :: cs) =
      '\\' :: 'u' :: a :: b :: c :: d :: lowerOutside (some quote) cs := by
  have hkeep : ∀ x ∈ [a, b, c, d], ∀ tail,
      lowerOutside (some quote) (x :: tail) = x :: lowerOutside (some quote) tail := by
    intro x hx tail
    have hdigit := codeEscape?_eq_some h x hx
    refine lowerOutside_content ?_ ?_ tail
    · rintro rfl
      rw [isAsciiHexDigit_of_isQuote x hquote] at hdigit
      cases hdigit
    · rintro rfl
      cases hdigit
  rw [lowerOutside_backslash, hkeep a (by simp), hkeep b (by simp), hkeep c (by simp),
    hkeep d (by simp)]

/-- Characters that are no code are none in lower case. -/
theorem literalBody_lowerOutside_of_codeEscape? {a b c d : Char}
    (h : codeEscape? [a, b, c, d] = none) (quote : Char) (distance : Nat) (cs : List Char) :
    literalBody quote distance
        ('\\' :: 'u' :: lowerOutside (some quote) (a :: b :: c :: d :: cs)) =
      .error (.escape 'u' distance) := by
  have hlength := length_lowerOutside (some quote) (a :: b :: c :: d :: cs)
  have hmap := map_lowerOutside (some quote) (a :: b :: c :: d :: cs)
  match lowerOutside (some quote) (a :: b :: c :: d :: cs), hlength, hmap with
  | a' :: b' :: c' :: d' :: cs', _, hmap =>
    have hfour : [a', b', c', d'].map asciiLower = [a, b, c, d].map asciiLower := by
      simp only [List.map_cons, List.cons.injEq] at hmap
      simp [hmap.1, hmap.2.1, hmap.2.2.1, hmap.2.2.2.1]
    have hcode : codeEscape? [a', b', c', d'] = none := by
      rw [← codeEscape?_map_asciiLower, hfour, codeEscape?_map_asciiLower, h]
    rw [literalBody, hcode]

/-- Too few characters for a code are too few in lower case. -/
theorem literalBody_lowerOutside_of_short {cs : List Char}
    (hshort : ∀ a b c d tail, cs = a :: b :: c :: d :: tail → False) (quote : Char)
    (distance : Nat) :
    literalBody quote distance ('\\' :: 'u' :: lowerOutside (some quote) cs) =
      .error (.escape 'u' distance) := by
  have hlength := length_lowerOutside (some quote) cs
  have hshort' : ∀ a b c d tail, lowerOutside (some quote) cs = a :: b :: c :: d :: tail →
      False := by
    intro a b c d tail h
    rw [h] at hlength
    match cs, hlength, hshort with
    | a :: b :: c :: d :: tail, _, hshort => exact hshort a b c d tail rfl
  rw [literalBody]
  exact hshort'

theorem literalBody_content {quote c : Char} (hb : c ≠ '\\') (hc : c ≠ quote) (distance : Nat)
    (cs : List Char) :
    literalBody quote distance (c :: cs) =
      (literalBody quote (distance + 1) cs).map fun (body, rest) => (c :: body, rest) := by
  rw [literalBody, if_neg hc]
  · exact fun _ h => absurd h hb
  · exact fun h => absurd h hb
  · exact fun _ _ h => absurd h hb

theorem literalBody_close {quote : Char} (hb : quote ≠ '\\') (distance : Nat) (cs : List Char) :
    literalBody quote distance (quote :: cs) = .ok ([], cs) := by
  rw [literalBody, if_pos rfl]
  · exact fun _ h => absurd h hb
  · exact fun h => absurd h hb
  · exact fun _ _ h => absurd h hb

theorem literalBody_tracks {quote : Char} (hquote : isQuote quote = true) (distance : Nat)
    (cs : List Char) :
    LiteralTracks quote cs (literalBody quote distance cs)
      (literalBody quote distance (lowerOutside (some quote) cs)) := by
  have hback : quote ≠ '\\' := by
    rintro rfl
    cases hquote
  fun_induction literalBody quote distance cs with
  | case1 => exact .error _
  | case2 distance a b c d cs e hcode ih =>
      have hused := lowerOutside_code hquote hcode cs
      rw [hused, literalBody, hcode]
      exact LiteralTracks.append ['\\', 'u', a, b, c, d] ih hused
  | case3 distance a b c d cs hcode =>
      rw [lowerOutside_backslash, literalBody_lowerOutside_of_codeEscape? hcode]
      exact .error _
  | case4 distance cs hshort =>
      rw [lowerOutside_backslash, literalBody_lowerOutside_of_short hshort]
      exact .error _
  | case5 => exact .error _
  | case6 distance c cs hu e hescape ih =>
      rw [lowerOutside_backslash, literalBody, hescape]
      · exact LiteralTracks.append ['\\', c] ih (lowerOutside_backslash quote c cs)
      · exact hu
  | case7 distance c cs hu hescape =>
      rw [lowerOutside_backslash, literalBody, hescape]
      · exact .error _
      · exact hu
  | case8 distance cs _ _ _ =>
      have hclose : lowerOutside (some quote) (quote :: cs) = quote :: lowerOutside none cs := by
        rw [lowerOutside, if_pos rfl]
        exact fun _ _ h => absurd h hback
      rw [hclose, literalBody_close hback]
      exact .ok [quote] [] cs rfl hclose
  | case9 distance c cs _ hend hlong hc ih =>
      have hb : c ≠ '\\' := by
        rintro rfl
        cases cs with
        | nil => exact hend rfl rfl
        | cons d cs => exact hlong d cs rfl rfl
      have hused := lowerOutside_content hc hb cs
      rw [hused, literalBody_content hb hc]
      exact LiteralTracks.append [c] ih hused

/-! ### Numbers -/

theorem isNamePart_asciiLower (c : Char) : isNamePart (asciiLower c) = isNamePart c :=
  eq_asciiLower isNamePart (by decide) c

theorem isNameStart_asciiLower (c : Char) : isNameStart (asciiLower c) = isNameStart c :=
  eq_asciiLower isNameStart (by decide) c

theorem isNameStart_of_isAsciiUpper {c : Char} (h : isAsciiUpper c = true) :
    isNameStart c = true := by
  have hascii : isAscii c = true := by
    have hbounds := toNat_of_isAsciiUpper h
    exact decide_eq_true (by omega)
  rw [isNameStart, isLetter, hascii, h]
  rfl

theorem isNamePart_of_isQuote (c : Char) (h : isQuote c = true) : isNamePart c = false := by
  obtain rfl | rfl := eq_of_isQuote h <;> decide

theorem isAsciiDigit_of_isQuote (c : Char) (h : isQuote c = true) : isAsciiDigit c = false := by
  obtain rfl | rfl := eq_of_isQuote h <;> rfl

theorem asciiLower_of_isAsciiDigit {c : Char} (h : isAsciiDigit c = true) : asciiLower c = c := by
  apply asciiLower_of_isAsciiUpper_eq_false
  cases hc : isAsciiUpper c with
  | false => rfl
  | true =>
      have hdigit := toNat_of_isAsciiUpper hc
      simp only [isAsciiDigit, Bool.and_eq_true, decide_eq_true_eq] at h
      have hnine : c.toNat ≤ 57 := h.2
      omega

theorem map_asciiLower_takeWhile_isAsciiDigit (cs : List Char) :
    (cs.takeWhile isAsciiDigit).map asciiLower = cs.takeWhile isAsciiDigit := by
  have hdigits : ∀ c ∈ cs.takeWhile isAsciiDigit, asciiLower c = id c := by
    intro c hc
    exact asciiLower_of_isAsciiDigit (List.all_eq_true.mp List.all_takeWhile c hc)
  rw [List.map_congr_left hdigits, List.map_id]

/-- A test of one character of a text does not see the case of letters. -/
theorem any_getElem?_lowerOutside {p : Char → Bool} (hp : ∀ c, p (asciiLower c) = p c)
    (cs : List Char) (i : Nat) : (lowerOutside none cs)[i]?.any p = cs[i]?.any p := by
  have hmap : ∀ ds : List Char, ds[i]?.any p = (ds.map asciiLower)[i]?.any p := by
    intro ds
    rw [List.getElem?_map, Option.any_map]
    simp only [hp]
  rw [hmap, map_lowerOutside, ← hmap]

def isHexLetter (c : Char) : Bool :=
  c == 'x' || c == 'X'

theorem isHexStart_eq (cs : List Char) :
    isHexStart cs =
      (cs[0]?.any (· == '0') && cs[1]?.any isHexLetter && cs[2]?.any isAsciiHexDigit) := by
  match cs with
  | [] | [_] | [_, _] => simp [isHexStart]
  | a :: x :: d :: tail =>
    by_cases ha : a = '0'
    · subst ha
      simp [isHexStart, isHexLetter]
    · simp [isHexStart, ha]

theorem isHexStart_lowerOutside (cs : List Char) :
    isHexStart (lowerOutside none cs) = isHexStart cs := by
  have hzero := any_getElem?_lowerOutside (p := (· == '0'))
    (fun c => eq_asciiLower (· == '0') (by decide) c) cs 0
  have hletter := any_getElem?_lowerOutside (eq_asciiLower isHexLetter (by decide)) cs 1
  have hdigit := any_getElem?_lowerOutside isAsciiHexDigit_asciiLower cs 2
  rw [isHexStart_eq, isHexStart_eq, hzero, hletter, hdigit]

theorem fractionPart_eq (cs : List Char) :
    fractionPart cs =
      if cs[0]?.any (· == '.') && cs[1]?.any isAsciiDigit then
        '.' :: (cs.drop 1).takeWhile isAsciiDigit
      else [] := by
  match cs with
  | [] | [_] => simp [fractionPart]
  | a :: c :: tail =>
    by_cases ha : a = '.'
    · subst ha
      simp [fractionPart]
    · simp [fractionPart, ha]

theorem fractionPart_lowerOutside (cs : List Char) :
    fractionPart (lowerOutside none cs) = fractionPart cs ∧
      (fractionPart cs).map asciiLower = fractionPart cs ∧ IsFront (fractionPart cs) cs := by
  have hpoint := any_getElem?_lowerOutside (p := (· == '.'))
    (fun c => eq_asciiLower (· == '.') (by decide) c) cs 0
  have hdigit := any_getElem?_lowerOutside isAsciiDigit_asciiLower cs 1
  rw [fractionPart_eq, fractionPart_eq, hpoint, hdigit]
  split
  · next h =>
      cases cs with
      | nil => cases h
      | cons a cs =>
          obtain rfl : a = '.' := by
            rw [Bool.and_eq_true] at h
            simpa using h.1
          have htail : (lowerOutside none ('.' :: cs)).drop 1 = lowerOutside none cs := rfl
          refine ⟨?_, ?_, ?_⟩
          · rw [htail, takeWhile_lowerOutside isAsciiDigit_asciiLower isAsciiDigit_of_isQuote,
              map_asciiLower_takeWhile_isAsciiDigit]
            rfl
          · rw [List.map_cons, map_asciiLower_takeWhile_isAsciiDigit]
            rfl
          · exact (isFront_takeWhile isAsciiDigit_of_isQuote cs).cons rfl
  · exact ⟨rfl, rfl, isFront_nil cs⟩

def isExponentLetter (c : Char) : Bool :=
  c == 'e' || c == 'E'

def isSign (c : Char) : Bool :=
  c == '+' || c == '-'

theorem exponentPart_eq (cs : List Char) :
    exponentPart cs =
      if cs[0]?.any isExponentLetter && cs[1]?.any isAsciiDigit then
        cs.take 1 ++ (cs.drop 1).takeWhile isAsciiDigit
      else if cs[0]?.any isExponentLetter && cs[1]?.any isSign && cs[2]?.any isAsciiDigit then
        cs.take 2 ++ (cs.drop 2).takeWhile isAsciiDigit
      else [] := by
  match cs with
  | [] => rfl
  | [a] => simp [exponentPart]
  | [a, d] =>
    have hletter : isExponentLetter a = (a == 'e' || a == 'E') := rfl
    cases he : (a == 'e' || a == 'E') <;> cases hd : isAsciiDigit d <;>
      simp [exponentPart, hletter, he, hd]
  | a :: s :: d :: tail =>
    have hletter : isExponentLetter a = (a == 'e' || a == 'E') := rfl
    have hsign : isSign s = (s == '+' || s == '-') := rfl
    cases he : (a == 'e' || a == 'E') with
    | false => simp [exponentPart, hletter, he]
    | true =>
      cases hs : isAsciiDigit s <;> cases hp : (s == '+' || s == '-') <;>
        cases hd : isAsciiDigit d <;> simp [exponentPart, hletter, hsign, he, hs, hp, hd]

theorem exponentPart_lowerOutside (cs : List Char) :
    exponentPart (lowerOutside none cs) = (exponentPart cs).map asciiLower ∧
      lowerExponent ((exponentPart cs).map asciiLower) = lowerExponent (exponentPart cs) ∧
      IsFront (exponentPart cs) cs := by
  have hletter := any_getElem?_lowerOutside (eq_asciiLower isExponentLetter (by decide)) cs 0
  have hsign := any_getElem?_lowerOutside (eq_asciiLower isSign (by decide)) cs 1
  have hdigit := any_getElem?_lowerOutside isAsciiDigit_asciiLower cs
  rw [exponentPart_eq, exponentPart_eq, hletter, hsign, hdigit, hdigit]
  have hquote : ∀ c, isExponentLetter c || isSign c → isQuote c = false := by
    intro c hc
    simp only [isExponentLetter, isSign, Bool.or_eq_true, beq_iff_eq] at hc
    obtain (rfl | rfl) | rfl | rfl := hc <;> rfl
  split
  · next h =>
      cases cs with
      | nil => cases h
      | cons a cs =>
          have ha : isQuote a = false := by
            simp only [Bool.and_eq_true, List.getElem?_cons_zero, Option.any_some] at h
            exact hquote a (by simp [h.1])
          have htail : (lowerOutside none (a :: cs)).drop 1 = lowerOutside none cs := by
            rw [lowerOutside_cons ha]
            rfl
          have hdigits := map_asciiLower_takeWhile_isAsciiDigit cs
          refine ⟨?_, ?_, ?_⟩
          · rw [htail, takeWhile_lowerOutside isAsciiDigit_asciiLower isAsciiDigit_of_isQuote,
              lowerOutside_cons ha]
            simp
          · simp [lowerExponent, hdigits]
          · exact (isFront_takeWhile isAsciiDigit_of_isQuote cs).cons ha
  · split
    · next h =>
        obtain ⟨a, s, cs, rfl⟩ : ∃ a s tail, cs = a :: s :: tail := by
          rcases cs with - | ⟨a, - | ⟨s, tail⟩⟩
          · simp at h
          · simp at h
          · exact ⟨a, s, tail, rfl⟩
        · simp only [Bool.and_eq_true, List.getElem?_cons_zero, List.getElem?_cons_succ,
            Option.any_some] at h
          have ha : isQuote a = false := hquote a (by simp [h.1.1])
          have hs : isQuote s = false := hquote s (by simp [h.1.2])
          have hlower : asciiLower s = s := by
            have hs' := h.1.2
            simp only [isSign, Bool.or_eq_true, beq_iff_eq] at hs'
            obtain rfl | rfl := hs' <;> rfl
          have htail : (lowerOutside none (a :: s :: cs)).drop 2 = lowerOutside none cs := by
            rw [lowerOutside_cons ha, lowerOutside_cons hs]
            rfl
          have hdigits := map_asciiLower_takeWhile_isAsciiDigit cs
          refine ⟨?_, ?_, ?_⟩
          · rw [htail, takeWhile_lowerOutside isAsciiDigit_asciiLower isAsciiDigit_of_isQuote,
              lowerOutside_cons ha, lowerOutside_cons hs]
            simp
          · simp [lowerExponent, hdigits, hlower]
          · exact ((isFront_takeWhile isAsciiDigit_of_isQuote cs).cons hs).cons ha
    · exact ⟨rfl, rfl, isFront_nil cs⟩

theorem lowerAscii_ofList (cs : List Char) :
    lowerAscii (String.ofList cs) = String.ofList (cs.map asciiLower) := by
  rw [lowerAscii, String.toList_ofList]

theorem fold_ofList_map_asciiLower (cs : List Char) :
    fold (String.ofList (cs.map asciiLower)) = fold (String.ofList cs) := by
  rw [← lowerAscii_ofList, fold_lowerAscii]

/-- A number keeps its value, and its spelling is lowered. -/
theorem numberPart_lowerOutside (cs : List Char) :
    numberPart (lowerOutside none cs) =
        ((numberPart cs).1.map asciiLower, (numberPart cs).2) ∧
      IsFront (numberPart cs).1 cs := by
  have hname := takeWhile_lowerOutside isNamePart_asciiLower isNamePart_of_isQuote
  have hhex := takeWhile_lowerOutside isAsciiHexDigit_asciiLower isAsciiHexDigit_of_isQuote
  have hafterHex := dropWhile_lowerOutside isAsciiHexDigit_asciiLower isAsciiHexDigit_of_isQuote
  unfold numberPart
  rw [isHexStart_lowerOutside]
  split
  · next h =>
      obtain ⟨a, x, tail, rfl⟩ : ∃ a x tail, cs = a :: x :: tail := by
        rcases cs with - | ⟨a, - | ⟨x, tail⟩⟩
        · cases h
        · simp [isHexStart] at h
        · exact ⟨a, x, tail, rfl⟩
      rw [isHexStart_eq] at h
      simp only [Bool.and_eq_true, List.getElem?_cons_zero, List.getElem?_cons_succ,
        Option.any_some, beq_iff_eq] at h
      have ha : isQuote a = false := by
        rw [h.1.1]
        rfl
      have hx : isQuote x = false := by
        have hx := h.1.2
        simp only [isHexLetter, Bool.or_eq_true, beq_iff_eq] at hx
        obtain rfl | rfl := hx <;> rfl
      have htake : (lowerOutside none (a :: x :: tail)).take 2 = [asciiLower a, asciiLower x] := by
        rw [lowerOutside_cons ha, lowerOutside_cons hx]
        rfl
      have hdrop : (lowerOutside none (a :: x :: tail)).drop 2 = lowerOutside none tail := by
        rw [lowerOutside_cons ha, lowerOutside_cons hx]
        rfl
      have hfront : IsFront (tail.takeWhile isAsciiHexDigit ++
          (tail.dropWhile isAsciiHexDigit).takeWhile isNamePart) tail := by
        apply (isFront_takeWhile isAsciiHexDigit_of_isQuote tail).append
        rw [drop_length_takeWhile]
        exact isFront_takeWhile isNamePart_of_isQuote _
      refine ⟨?_, (hfront.cons hx).cons ha⟩
      simp only [htake, hdrop, hhex, hafterHex, hname, hexLiteral?, ofHexDigits_map_asciiLower,
        fold_ofList_map_asciiLower]
      simp
  · have hwhole := takeWhile_lowerOutside isAsciiDigit_asciiLower isAsciiDigit_of_isQuote cs
    have hafter := dropWhile_lowerOutside isAsciiDigit_asciiLower isAsciiDigit_of_isQuote cs
    have hdigits := map_asciiLower_takeWhile_isAsciiDigit cs
    obtain ⟨hfraction, hsame, hfront⟩ := fractionPart_lowerOutside (cs.dropWhile isAsciiDigit)
    obtain ⟨hexponent, hletter, hfront'⟩ := exponentPart_lowerOutside
      ((cs.dropWhile isAsciiDigit).drop (fractionPart (cs.dropWhile isAsciiDigit)).length)
    refine ⟨?_, ?_⟩
    · simp only [hwhole, hafter, hfraction, hfront.drop, hexponent, List.length_map, hfront'.drop,
        hname, fold_ofList_map_asciiLower, hletter, List.isEmpty_map]
      simp [hdigits, hsame]
    · have hrest := hfront.append (hfront'.append (isFront_takeWhile isNamePart_of_isQuote _))
      rw [← drop_length_takeWhile isAsciiDigit cs] at hrest ⊢
      have hall := (isFront_takeWhile isAsciiDigit_of_isQuote cs).append hrest
      simpa only [List.append_assoc] using hall

/-! ### Tokens -/

theorem ofName?_lowerAscii (name : String) :
    Keyword.ofName? (lowerAscii name) = Keyword.ofName? name := by
  rw [Keyword.ofName?, fold_lowerAscii, Keyword.ofName?]

/-- The characters of operators and delimiters are not letters or quotes. -/
theorem isPrefixOf_lowerOutside {spelling : List Char}
    (h : ∀ c ∈ spelling, (isAsciiUpper c || isAsciiLower c) = false ∧ isQuote c = false)
    (cs : List Char) :
    spelling.isPrefixOf (lowerOutside none cs) = spelling.isPrefixOf cs := by
  induction spelling generalizing cs with
  | nil => rfl
  | cons d spelling ih =>
      have hd := h d List.mem_cons_self
      cases cs with
      | nil => rfl
      | cons c cs =>
          have hcd : (d == asciiLower c) = (d == c) := by
            rw [Bool.eq_iff_iff, beq_iff_eq, beq_iff_eq, eq_comm, asciiLower_eq_iff hd.1, eq_comm]
          cases hc : isQuote c with
          | true =>
              have hne : (d == c) = false := by
                rw [beq_eq_false_iff_ne]
                rintro rfl
                rw [hd.2] at hc
                cases hc
              rw [lowerOutside, List.isPrefixOf_cons_cons, List.isPrefixOf_cons_cons, hcd, hne]
              rfl
          | false =>
              rw [lowerOutside_cons hc, List.isPrefixOf_cons_cons, List.isPrefixOf_cons_cons, hcd,
                ih (fun c hc => h c (List.mem_cons_of_mem d hc))]

/-- The spellings consist of characters that are neither letters nor quotes. -/
theorem spellings_char {spelling : String} {s : Punctuator}
    (h : (spelling, s) ∈ Punctuator.spellings) {c : Char} (hc : c ∈ spelling.toList) :
    (isAsciiUpper c || isAsciiLower c) = false ∧ isQuote c = false := by
  have hall : (Punctuator.spellings.all fun e => e.1.toList.all fun c =>
      !(isAsciiUpper c || isAsciiLower c) && !isQuote c) = true := by
    decide
  have hchars := List.all_eq_true.mp hall (spelling, s) h
  have hchar := List.all_eq_true.mp hchars c hc
  simpa only [Bool.and_eq_true, Bool.not_eq_true'] using hchar

theorem ofPrefix?_lowerOutside (cs : List Char) :
    Punctuator.ofPrefix? (lowerOutside none cs) = Punctuator.ofPrefix? cs := by
  refine List.find?_congr ?_
  rintro ⟨spelling, s⟩ he
  exact isPrefixOf_lowerOutside (fun c hc => spellings_char he hc) cs

theorem ofPrefix?_isFront {cs : List Char} {spelling : String} {s : Punctuator}
    (h : Punctuator.ofPrefix? cs = some (spelling, s)) : IsFront spelling.toList cs := by
  have hmem : (spelling, s) ∈ Punctuator.spellings := List.mem_of_find?_eq_some h
  refine ⟨?_, fun c hc => (spellings_char hmem hc).2⟩
  have hprefix := List.find?_some h
  exact List.isPrefixOf_iff_prefix.mp hprefix

theorem lowerAscii_punctuator {cs : List Char} {spelling : String} {s : Punctuator}
    (h : Punctuator.ofPrefix? cs = some (spelling, s)) : lowerAscii spelling = spelling := by
  have hmem : (spelling, s) ∈ Punctuator.spellings := List.mem_of_find?_eq_some h
  have hsame : ∀ c ∈ spelling.toList, asciiLower c = c := by
    intro c hc
    have hletter := (spellings_char hmem hc).1
    exact asciiLower_of_isAsciiUpper_eq_false (Bool.or_eq_false_iff.mp hletter).1
  rw [lowerAscii, List.map_congr_left hsame, List.map_id', String.ofList_toList]

/-- A token and the text after it, in lower case. -/
def lowerNext (found : Token × List Char) : Token × List Char :=
  (found.1.lower, lowerOutside none found.2)

theorem next_quote_tracks {c : Char} (hc : isQuote c = true) (offset : Nat) (cs : List Char) :
    Tracks LexError.lower lowerNext (next offset c cs)
      (next offset c (lowerOutside (some c) cs)) := by
  have htracks := literalBody_tracks hc 1 cs
  have hlength := length_lowerOutside (some c) cs
  have hcond : (c == '"' || c == '\'') = true := hc
  unfold next
  rw [if_pos hcond, if_pos hcond, hlength]
  generalize literalBody c 1 cs = o, literalBody c 1 (lowerOutside (some c) cs) = o' at htracks ⊢
  cases htracks with
  | error e => exact .error rfl
  | ok used body rest hcs hlower =>
      have hspelling : (c :: lowerOutside (some c) cs).take
          (cs.length + 1 - (lowerOutside none rest).length) =
            (c :: cs).take (cs.length + 1 - rest.length) := by
        have hcount : cs.length + 1 - rest.length = used.length + 1 := by
          rw [hcs, List.length_append]
          omega
        rw [length_lowerOutside, hcount, hlower, hcs]
        simp
      have hsame : ∀ spelling, lowerNext (⟨literalOf c body, spelling, offset⟩, rest) =
          (⟨literalOf c body, spelling, offset⟩, lowerOutside none rest) := by
        intro spelling
        unfold literalOf lowerNext
        split <;> rfl
      simp only [hspelling]
      rw [← hsame]
      exact .ok _

theorem next_tracks (offset : Nat) (c : Char) (cs : List Char) :
    Tracks LexError.lower lowerNext (next offset c cs)
      (next offset (asciiLower c) (lowerOutside (if isQuote c then some c else none) cs)) := by
  cases hc : isQuote c with
  | true =>
      have hsame : asciiLower c = c := by
        obtain rfl | rfl := eq_of_isQuote hc <;> rfl
      rw [hsame]
      exact next_quote_tracks hc offset cs
  | false =>
      have hquote : (c == '"' || c == '\'') = false := hc
      have hquote' : (asciiLower c == '"' || asciiLower c == '\'') = false :=
        (isQuote_asciiLower c).trans hc
      have htext : asciiLower c :: lowerOutside none cs = lowerOutside none (c :: cs) :=
        (lowerOutside_cons hc cs).symm
      show Tracks _ _ _ (next offset (asciiLower c) (lowerOutside none cs))
      unfold next
      rw [hquote, hquote', isNameStart_asciiLower, isAsciiDigit_asciiLower, htext]
      simp only [Bool.false_eq_true, if_false]
      split
      · rw [takeWhile_lowerOutside isNamePart_asciiLower isNamePart_of_isQuote,
          dropWhile_lowerOutside isNamePart_asciiLower isNamePart_of_isQuote, ← lowerAscii_ofList,
          ofName?_lowerAscii]
        cases Keyword.ofName? (String.ofList ((c :: cs).takeWhile isNamePart)) with
        | some k => exact .ok (_, _)
        | none => exact .ok (_, _)
      · next hname =>
          split
          · obtain ⟨hnumber, hfront⟩ := numberPart_lowerOutside (c :: cs)
            rw [hnumber]
            generalize numberPart (c :: cs) = part at hfront ⊢
            obtain ⟨spelling, value⟩ := part
            have hdrop : (lowerOutside none (c :: cs)).drop (spelling.map asciiLower).length =
                lowerOutside none ((c :: cs).drop spelling.length) := by
              rw [List.length_map]
              exact hfront.drop
            cases value with
            | some n =>
                simp only [hdrop, ← lowerAscii_ofList]
                exact .ok (_, _)
            | none =>
                refine .error ?_
                simp only [LexError.lower, ← lowerAscii_ofList, lowerAscii_lowerAscii]
          · have hsame : asciiLower c = c := by
              apply asciiLower_of_isAsciiUpper_eq_false
              cases hupper : isAsciiUpper c with
              | false => rfl
              | true => exact absurd (isNameStart_of_isAsciiUpper hupper) hname
            rw [ofPrefix?_lowerOutside, hsame]
            cases hs : Punctuator.ofPrefix? (c :: cs) with
            | none => exact .error rfl
            | some found =>
                obtain ⟨spelling, s⟩ := found
                have hdrop := (ofPrefix?_isFront hs).drop
                rw [String.length_toList] at hdrop
                have hsame : lowerNext
                    (⟨.punctuator s, spelling, offset⟩, (c :: cs).drop spelling.length) =
                      (⟨.punctuator s, spelling, offset⟩,
                        lowerOutside none ((c :: cs).drop spelling.length)) := by
                  rw [lowerNext, Token.lower, lowerAscii_punctuator hs]
                simp only [hdrop]
                rw [← hsame]
                exact .ok _

/-- Two lexed texts, of which one is the other in lower case. -/
structure LexedTracks (l l' : Lexed) : Prop where
  tokens : l'.tokens = l.tokens.map Token.lower
  outcome : Tracks LexError.lower id l.outcome l'.outcome

theorem scanFrom_lowerOutside (fuel offset : Nat) (cs : List Char) :
    LexedTracks (scanFrom fuel offset cs) (scanFrom fuel offset (lowerOutside none cs)) := by
  have hspace : ∀ c, isQuote c = true → isSpace c = false := by
    intro c hc
    obtain rfl | rfl := eq_of_isQuote hc <;> decide
  induction fuel generalizing offset cs with
  | zero => exact ⟨rfl, .ok offset⟩
  | succ fuel ih =>
      unfold scanFrom
      rw [takeWhile_lowerOutside isSpace_asciiLower hspace,
        dropWhile_lowerOutside isSpace_asciiLower hspace, List.length_map]
      generalize offset + (cs.takeWhile isSpace).length = start
      cases cs.dropWhile isSpace with
      | nil => exact ⟨rfl, .ok start⟩
      | cons c cs =>
          have hnext := next_tracks start c cs
          rw [lowerOutside]
          simp only [length_lowerOutside]
          generalize next start c cs = o, next start (asciiLower c) _ = o' at hnext ⊢
          cases hnext with
          | error h => exact ⟨rfl, .error h⟩
          | ok found =>
              obtain ⟨t, rest⟩ := found
              simp only [lowerNext, length_lowerOutside]
              have hrest := ih (start + (cs.length + 1 - rest.length)) rest
              exact ⟨congrArg (t.lower :: ·) hrest.tokens, hrest.outcome⟩

end Token

end Elementwise
