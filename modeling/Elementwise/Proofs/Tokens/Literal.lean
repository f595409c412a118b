import Elementwise.Proofs.Tokens.Reading
import Mathlib.Data.List.Forall2

/-!
Text literals.  Each character of a literal can be spelled as it is, as an escape of one letter or as a
code, with a few exceptions; however it is spelled, the literal is one token with these characters, and
it ends at its closing quote whatever comes after that.
-/

namespace Elementwise.Token

open Text

/-! ### Spellings -/

/-- The characters that a letter after a backslash stands for. -/
def letterEscapes : List (Char × Char) :=
  [('\n', 'n'), ('\t', 't'), ('\r', 'r'), (Char.ofNat 0, '0'), ('"', '"'), ('\'', '\''),
   ('\\', '\\')]

/-- The ways of writing a character between two quotes: the character itself, unless it is that quote or
a backslash; a letter after a backslash; and the four hexadecimal digits of its code. -/
inductive Spells (quote : Char) : Char → List Char → Prop where
  | raw {c : Char} (hquote : c ≠ quote) (hback : c ≠ '\\') : Spells quote c [c]
  | letter {c l : Char} (h : (c, l) ∈ letterEscapes) : Spells quote c ['\\', l]
  | code {c : Char} {ds : List Char} (hlength : ds.length = 4) (zeros : Nat)
      (hds : ds.map asciiLower = List.replicate zeros '0' ++ Nat.toDigits 16 c.toNat) :
    Spells quote c ('\\' :: 'u' :: ds)

/-- The text of a literal whose characters are spelled as given. -/
def literalText (quote : Char) (spellings : List (List Char)) : List Char :=
  quote :: (spellings.flatten ++ [quote])

variable {quote c : Char} {spelling body rest : List Char} {spellings : List (List Char)}

/-- Every character has a spelling between quotes. -/
theorem exists_spells (hquote : isQuote quote = true) (c : Char) : ∃ s, Spells quote c s := by
  by_cases hback : c = '\\'
  · exact ⟨_, .letter (l := '\\') (by rw [hback]; decide)⟩
  · by_cases hc : c = quote
    · obtain rfl | rfl := eq_of_isQuote hquote
      · exact ⟨_, .letter (l := '"') (by rw [hc]; decide)⟩
      · exact ⟨_, .letter (l := '\'') (by rw [hc]; decide)⟩
    · exact ⟨_, .raw hc hback⟩

theorem exists_spellings (hquote : isQuote quote = true) (body : List Char) :
    ∃ spellings, List.Forall₂ (Spells quote) body spellings := by
  induction body with
  | nil => exact ⟨[], .nil⟩
  | cons c body ih =>
      obtain ⟨s, hs⟩ := exists_spells hquote c
      obtain ⟨spellings, hspellings⟩ := ih
      exact ⟨s :: spellings, .cons hs hspellings⟩

/-! ### Reading -/

theorem ne_backslash_of_isQuote (hquote : isQuote quote = true) : quote ≠ '\\' := by
  rintro rfl
  cases hquote

/-- Four digits of the code of a character are read as the character. -/
theorem codeEscape?_of_digits {zeros : Nat} {w x y z : Char}
    (hds : [w, x, y, z].map asciiLower = List.replicate zeros '0' ++ Nat.toDigits 16 c.toNat) :
    codeEscape? [w, x, y, z] = some c := by
  obtain ⟨-, hall, hvalue⟩ := hex_spec hds
  have hdigits : [w, x, y, z].all isAsciiHexDigit = true := List.all_eq_true.2 hall
  have hvalid : decide c.toNat.isValidChar = true := decide_eq_true c.valid
  simp only [codeEscape?]
  rw [hdigits, hvalue, hvalid, Char.ofNat_toNat]
  rfl

/-- A character is read however it is spelled, and reading goes on behind its spelling. -/
theorem literalBody_append (h : Spells quote c spelling) (distance : Nat) (cs : List Char) :
    literalBody quote distance (spelling ++ cs) =
      (literalBody quote (distance + spelling.length) cs).map fun found =>
        (c :: found.1, found.2) := by
  cases h with
  | raw hquote hback => exact literalBody_content hback hquote distance cs
  | @letter l h =>
      have hescapes : ∀ e ∈ letterEscapes, e.2 ≠ 'u' ∧ escapes.lookup e.2 = some e.1 := by decide
      obtain ⟨hu, hlookup⟩ := hescapes _ h
      simp only [List.cons_append, List.nil_append]
      rw [literalBody, hlookup]
      · rfl
      · exact hu
  | @code ds hlength _ hds =>
      obtain ⟨w, x, y, z, rfl⟩ := List.length_eq_four.1 hlength
      simp only [List.cons_append, List.nil_append]
      rw [literalBody, codeEscape?_of_digits hds]
      rfl

/-- A literal is read as its characters, up to its closing quote. -/
theorem literalBody_spellings (hquote : isQuote quote = true)
    (h : List.Forall₂ (Spells quote) body spellings) (distance : Nat) (rest : List Char) :
    literalBody quote distance (spellings.flatten ++ quote :: rest) = .ok (body, rest) := by
  induction h generalizing distance with
  | nil => exact literalBody_close (ne_backslash_of_isQuote hquote) distance rest
  | cons hc _ ih =>
      rw [List.flatten_cons, List.append_assoc, literalBody_append hc, ih]
      rfl

/-- A literal is one token with its characters and its whole text, whatever comes after it. -/
theorem readsAs_literalText (hquote : isQuote quote = true)
    (h : List.Forall₂ (Spells quote) body spellings) (offset : Nat) (rest : List Char) :
    ReadsAs offset (literalText quote spellings ++ rest)
      ⟨literalOf quote body, String.ofList (literalText quote spellings), offset⟩ rest := by
  have hspace : isSpace quote = false := by
    obtain rfl | rfl := eq_of_isQuote hquote <;> rfl
  have hbody := literalBody_spellings hquote h 1 rest
  rw [← List.singleton_append, ← List.append_assoc] at hbody
  rw [literalText, List.cons_append]
  refine readsAs_of_next hspace ?_
  rw [next, if_pos (c := (quote == '"' || quote == '\'') = true) hquote, hbody]
  dsimp only
  rw [← List.cons_append, take_taken]

theorem literalOf_of_length_ne (h : body.length ≠ 1) (quote : Char) :
    literalOf quote body = .string (String.ofList body) := by
  unfold literalOf
  split
  · exact absurd rfl h
  · rfl

/-- Every sequence of characters can be written between quotes of both kinds, and however its characters
are spelled it is one token.  Between double quotes it is a string; between single quotes it is a
character if it is a single one, and else a string. -/
theorem text_literal (body : List Char) :
    (∃ spellings, List.Forall₂ (Spells '"') body spellings) ∧
    (∃ spellings, List.Forall₂ (Spells '\'') body spellings) ∧
    ∀ spellings offset rest,
      (List.Forall₂ (Spells '"') body spellings →
        ReadsAs offset (literalText '"' spellings ++ rest)
          ⟨.string (String.ofList body), String.ofList (literalText '"' spellings), offset⟩ rest) ∧
      (List.Forall₂ (Spells '\'') body spellings →
        (∀ c, body = [c] → ReadsAs offset (literalText '\'' spellings ++ rest)
          ⟨.char c, String.ofList (literalText '\'' spellings), offset⟩ rest) ∧
        (body.length ≠ 1 → ReadsAs offset (literalText '\'' spellings ++ rest)
          ⟨.string (String.ofList body), String.ofList (literalText '\'' spellings), offset⟩
          rest)) := by
  refine ⟨exists_spellings rfl body, exists_spellings rfl body, fun spellings offset rest => ⟨?_, ?_⟩⟩
  · exact fun h => readsAs_literalText rfl h offset rest
  · intro h
    have hreads := readsAs_literalText rfl h offset rest
    refine ⟨?_, fun hlength => ?_⟩
    · rintro c rfl
      exact hreads
    · rwa [literalOf_of_length_ne hlength] at hreads

/-- A quote is spelled as it is between quotes of the other kind and with a backslash or as its code
between its own. -/
theorem text_literal_quotes :
    List.Forall₂ (Spells '"') ['"', '\'', 'é'] [['\\', '"'], ['\''], ['\\', 'u', '0', '0', 'E', '9']] ∧
    ReadsAs 2 (literalText '"' [['\\', '"'], ['\''], ['\\', 'u', '0', '0', 'E', '9']] ++ ['+'])
      ⟨.string "\"'é", "\"\\\"'\\u00E9\"", 2⟩ ['+'] ∧
    List.Forall₂ (Spells '\'') ['\''] [['\\', 'u', '0', '0', '2', '7']] ∧
    ReadsAs 2 (literalText '\'' [['\\', 'u', '0', '0', '2', '7']] ++ ['+'])
      ⟨.char '\'', "'\\u0027'", 2⟩ ['+'] ∧
    ([] : List Char).length ≠ 1 ∧
    ReadsAs 2 (literalText '\'' [] ++ ['+']) ⟨.string "", "''", 2⟩ ['+'] := by
  have hdouble : List.Forall₂ (Spells '"') ['"', '\'', 'é']
      [['\\', '"'], ['\''], ['\\', 'u', '0', '0', 'E', '9']] :=
    .cons (.letter (by decide)) (.cons (.raw (by decide) (by decide))
      (.cons (.code rfl 2 (by decide)) .nil))
  have hsingle : List.Forall₂ (Spells '\'') ['\''] [['\\', 'u', '0', '0', '2', '7']] :=
    .cons (.code rfl 2 (by decide)) .nil
  have hempty : ([] : List Char).length ≠ 1 := by decide
  exact ⟨hdouble, ((text_literal _).2.2 _ 2 ['+']).1 hdouble,
    hsingle, (((text_literal _).2.2 _ 2 ['+']).2 hsingle).1 _ rfl,
    hempty, (((text_literal _).2.2 _ 2 ['+']).2 .nil).2 hempty⟩

end Elementwise.Token
