import Elementwise.Proofs.LetterCase.Lexer

/-!
Tokens and white space make up the text that they are read from.  Each token stands in the text at
its offset as it is spelled, the tokens follow each other without overlap, and what lies before and
between them is white space.  A text that is read to its end is covered in this way as a whole; one
that is not is left at a place in it that no token has passed.
-/

namespace Elementwise.Token

open Text

/-! ### One token -/

/-- The token is spelled at the front of the text, which stands at the offset, and leaves the rest. -/
structure Heads (t : Token) (offset : Nat) (cs rest : List Char) : Prop where
  offset_eq : t.offset = offset
  spelled : cs = t.spelling.toList ++ rest
  spelling_ne : t.spelling.toList ≠ []

variable {t : Token} {offset : Nat} {c : Char} {cs rest : List Char} {e : LexError}

theorem Heads.of_part {lexeme : Lexeme} {part : List Char} (hpart : part <+: cs)
    (hne : part ≠ []) :
    Heads ⟨lexeme, String.ofList part, offset⟩ offset cs (cs.drop part.length) := by
  obtain ⟨rest, rfl⟩ := hpart
  refine ⟨rfl, ?_, ?_⟩
  · rw [String.toList_ofList, List.drop_left]
  · rwa [String.toList_ofList]

theorem numberPart_ne_nil (hc : isAsciiDigit c = true) : (numberPart (c :: cs)).1 ≠ [] := by
  unfold numberPart
  split
  · exact List.cons_ne_nil _ _
  · rw [List.takeWhile_cons_of_pos hc]
    exact List.cons_ne_nil _ _

theorem ofPrefix?_ne_nil {spelling : String} {s : Punctuator}
    (h : Punctuator.ofPrefix? cs = some (spelling, s)) : spelling.toList ≠ [] := by
  have hall : (Punctuator.spellings.all fun e => !e.1.toList.isEmpty) = true := by decide
  have hne := List.all_eq_true.1 hall _ (List.mem_of_find?_eq_some h)
  rwa [Bool.not_eq_true', List.isEmpty_eq_false_iff] at hne

/-- A literal is spelled by its quote and the characters up to the rest. -/
theorem heads_literal {body : List Char} {lexeme : Lexeme} (hc : isQuote c = true)
    (h : literalBody c 1 cs = .ok (body, rest)) :
    Heads ⟨lexeme, String.ofList ((c :: cs).take (cs.length + 1 - rest.length)), offset⟩ offset
      (c :: cs) rest := by
  have htracks := literalBody_tracks hc 1 cs
  rw [h] at htracks
  generalize literalBody c 1 (lowerOutside (some c) cs) = lowered at htracks
  cases htracks with
  | ok used _ _ hcs _ =>
      have htake : (c :: cs).take (cs.length + 1 - rest.length) = c :: used := by
        have hlength : cs.length + 1 - rest.length = used.length + 1 := by
          rw [hcs, List.length_append]
          omega
        rw [hlength, hcs, List.take_succ_cons, List.take_left]
      rw [htake]
      refine ⟨rfl, ?_, ?_⟩
      · rw [String.toList_ofList, hcs, List.cons_append]
      · rw [String.toList_ofList]
        exact List.cons_ne_nil _ _

theorem next_heads (h : next offset c cs = .ok (t, rest)) : Heads t offset (c :: cs) rest := by
  unfold next at h
  split at h
  · rename_i hc
    split at h
    · rename_i body rest' hbody
      obtain ⟨rfl, rfl⟩ := Prod.mk.inj (Except.ok.inj h)
      exact heads_literal hc hbody
    · cases h
  split at h
  · rename_i hc
    obtain ⟨rfl, rfl⟩ := Prod.mk.inj (Except.ok.inj h)
    have hpart : isNamePart c = true := by
      rw [isNamePart, isLetterOrNumber, Bool.or_assoc, Bool.or_comm (isNumber c), ← Bool.or_assoc]
      exact Bool.or_eq_true_iff.2 (Or.inl hc)
    have hne : (c :: cs).takeWhile isNamePart ≠ [] := by
      rw [List.takeWhile_cons_of_pos hpart]
      exact List.cons_ne_nil _ _
    rw [← drop_length_takeWhile]
    exact .of_part (List.takeWhile_prefix _) hne
  split at h
  · rename_i hc
    dsimp only at h
    split at h
    · obtain ⟨rfl, rfl⟩ := Prod.mk.inj (Except.ok.inj h)
      exact .of_part (numberPart_lowerOutside (c :: cs)).2.isPrefix (numberPart_ne_nil hc)
    · cases h
  · split at h
    · rename_i spelling s hs
      obtain ⟨rfl, rfl⟩ := Prod.mk.inj (Except.ok.inj h)
      obtain ⟨rest, hrest⟩ := (ofPrefix?_isFront hs).isPrefix
      refine ⟨rfl, ?_, ofPrefix?_ne_nil hs⟩
      rw [← hrest, ← String.length_toList, List.drop_left]
    · cases h

/-! ### Where no token can be read -/

theorem eq_error_of_map {α β ε : Type} {o : Except ε α} {f : α → β} {x : ε}
    (h : o.map f = .error x) : o = .error x := by
  cases o with
  | ok => cases h
  | error =>
      cases h
      rfl

/-- An escape that cannot be read stands inside the literal. -/
theorem distance_of_literalBody {quote d : Char} {distance place : Nat}
    (h : literalBody quote distance cs = .error (.escape d place)) :
    distance ≤ place ∧ place < distance + cs.length := by
  fun_induction literalBody quote distance cs with
  | case1 => cases h
  | case2 distance a b c d' cs e hcode ih =>
      obtain ⟨hle, hlt⟩ := ih (eq_error_of_map h)
      simp only [List.length_cons]
      omega
  | case3 | case4 | case7 =>
      cases h
      simp only [List.length_cons]
      omega
  | case5 => cases h
  | case6 distance c cs hu e hescape ih =>
      obtain ⟨hle, hlt⟩ := ih (eq_error_of_map h)
      simp only [List.length_cons]
      omega
  | case8 => cases h
  | case9 distance c cs _ _ _ _ ih =>
      obtain ⟨hle, hlt⟩ := ih (eq_error_of_map h)
      simp only [List.length_cons]
      omega

theorem next_error (h : next offset c cs = .error e) :
    offset ≤ e.offset ∧ e.offset < offset + (c :: cs).length := by
  have here : offset ≤ offset ∧ offset < offset + (c :: cs).length :=
    ⟨le_rfl, Nat.lt_add_of_pos_right (Nat.succ_pos _)⟩
  unfold next at h
  split at h
  · split at h
    · cases h
    · rename_i e' he
      cases h
      cases e' with
      | unterminated => exact here
      | escape d place =>
          obtain ⟨-, hlt⟩ := distance_of_literalBody he
          refine ⟨Nat.le_add_right _ _, Nat.add_lt_add_left ?_ _⟩
          rw [List.length_cons]
          omega
  split at h
  · cases h
  split at h
  · dsimp only at h
    split at h
    · cases h
    · cases h
      exact here
  · split at h
    · cases h
    · cases h
      exact here

/-! ### All tokens -/

/-- A text at an offset is a run of white space and tokens: up to its end, or up to a place where
reading ends with an error. -/
inductive Tiles : Nat → List Char → List Token → Except LexError Nat → Prop where
  | finish {offset : Nat} {blank : List Char} (hblank : ∀ c ∈ blank, isSpace c = true) :
      Tiles offset blank [] (.ok (offset + blank.length))
  | stuck {offset : Nat} {blank rest : List Char} {e : LexError}
      (hblank : ∀ c ∈ blank, isSpace c = true) (hle : offset + blank.length ≤ e.offset)
      (hlt : e.offset < offset + (blank ++ rest).length) :
      Tiles offset (blank ++ rest) [] (.error e)
  | token {offset : Nat} {blank rest : List Char} {t : Token} {ts : List Token}
      {outcome : Except LexError Nat} (hblank : ∀ c ∈ blank, isSpace c = true)
      (hoffset : t.offset = offset + blank.length) (hne : t.spelling.toList ≠ [])
      (h : Tiles t.stop rest ts outcome) :
      Tiles offset (blank ++ (t.spelling.toList ++ rest)) (t :: ts) outcome

theorem scanFrom_tiles {fuel : Nat} (hfuel : cs.length < fuel) :
    Tiles offset cs (scanFrom fuel offset cs).tokens (scanFrom fuel offset cs).outcome := by
  induction fuel generalizing offset cs with
  | zero => cases hfuel
  | succ fuel ih =>
      have hblank : ∀ c ∈ cs.takeWhile isSpace, isSpace c = true :=
        fun c hc => List.all_eq_true.1 List.all_takeWhile c hc
      have hcs : cs.takeWhile isSpace ++ cs.dropWhile isSpace = cs := List.takeWhile_append_dropWhile
      unfold scanFrom
      dsimp only
      generalize cs.takeWhile isSpace = blank at hblank hcs ⊢
      cases hrest : cs.dropWhile isSpace with
      | nil =>
          rw [hrest, List.append_nil] at hcs
          rw [← hcs]
          exact .finish hblank
      | cons c tail =>
          rw [hrest] at hcs
          rw [← hcs]
          dsimp only
          cases hnext : next (offset + blank.length) c tail with
          | error e =>
              obtain ⟨hle, hlt⟩ := next_error hnext
              refine .stuck hblank hle ?_
              rw [List.length_append, ← Nat.add_assoc]
              exact hlt
          | ok found =>
              obtain ⟨t, rest⟩ := found
              have hheads := next_heads hnext
              have hlength := congrArg List.length hheads.spelled
              have hpos := List.length_pos_iff.2 hheads.spelling_ne
              rw [List.length_cons, List.length_append] at hlength
              have hstop : offset + blank.length + (tail.length + 1 - rest.length) = t.stop := by
                rw [stop, hheads.offset_eq, ← String.length_toList]
                omega
              have hshort : rest.length < fuel := by
                rw [← hcs, List.length_append, List.length_cons] at hfuel
                omega
              dsimp only
              rw [hheads.spelled, hstop]
              exact .token hblank hheads.offset_eq hheads.spelling_ne (ih hshort)

/-! ### Places in the text -/

/-- Whether a place in the text belongs to the token. -/
def Covers (t : Token) (i : Nat) : Prop :=
  t.offset ≤ i ∧ i < t.stop

/-- The tokens stand in the text as they are spelled and in the order of their offsets, none reaches
into the next, and what lies before one of them and in no token is white space. -/
structure Tiling (source : List Char) (tokens : List Token) : Prop where
  spelled : ∀ t ∈ tokens, t.offset < t.stop ∧
    (source.drop t.offset).take t.spelling.length = t.spelling.toList
  ordered : tokens.Pairwise fun s t => s.offset < t.offset ∧ s.stop ≤ t.offset
  blank : ∀ i c, source[i]? = some c → (∃ t ∈ tokens, i < t.offset) →
    (∀ t ∈ tokens, ¬t.Covers i) → isSpace c = true

namespace Tiles

variable {ts : List Token} {outcome : Except LexError Nat}

theorem offset_lt_stop (hne : t.spelling.toList ≠ []) : t.offset < t.stop := by
  have hpos := List.length_pos_iff.2 hne
  rw [String.length_toList] at hpos
  exact Nat.lt_add_of_pos_right hpos

theorem offset_le (h : Tiles offset cs ts outcome) : ∀ t ∈ ts, offset ≤ t.offset := by
  induction h with
  | finish | stuck => exact List.forall_mem_nil _
  | token hblank hoffset hne h ih =>
      refine List.forall_mem_cons.2 ⟨by omega, fun t ht => ?_⟩
      have := ih t ht
      have := offset_lt_stop hne
      omega

theorem ordered (h : Tiles offset cs ts outcome) :
    ts.Pairwise fun s t => s.offset < t.offset ∧ s.stop ≤ t.offset := by
  induction h with
  | finish | stuck => exact .nil
  | token hblank hoffset hne h ih =>
      refine ih.cons fun t ht => ?_
      have := h.offset_le t ht
      have := offset_lt_stop hne
      omega

/-- The text after the token that the text starts with. -/
theorem drop_token {blank : List Char} (hoffset : t.offset = offset + blank.length) :
    (blank ++ (t.spelling.toList ++ rest)).drop (t.stop - offset) = rest := by
  have hlength : t.stop - offset = (blank ++ t.spelling.toList).length := by
    rw [stop, hoffset, List.length_append, String.length_toList]
    omega
  rw [hlength, ← List.append_assoc, List.drop_left]

theorem spelled (h : Tiles offset cs ts outcome) : ∀ t ∈ ts, t.offset < t.stop ∧
    (cs.drop (t.offset - offset)).take t.spelling.length = t.spelling.toList := by
  induction h with
  | finish | stuck => exact List.forall_mem_nil _
  | @token offset blank rest t ts outcome hblank hoffset hne h ih =>
      refine List.forall_mem_cons.2 ⟨⟨offset_lt_stop hne, ?_⟩, fun s hs => ?_⟩
      · rw [hoffset, Nat.add_sub_cancel_left, List.drop_left, ← String.length_toList,
          List.take_left]
      · obtain ⟨hlt, hspelled⟩ := ih s hs
        have hle := h.offset_le s hs
        have hlt' := offset_lt_stop hne
        have hsum : s.offset - offset = t.stop - offset + (s.offset - t.stop) := by omega
        rw [hsum, ← List.drop_drop, drop_token hoffset]
        exact ⟨hlt, hspelled⟩

/-- What no token covers is white space, up to the last token at least. -/
theorem blank (h : Tiles offset cs ts outcome) {i : Nat} (hi : cs[i]? = some c)
    (hafter : (∃ t ∈ ts, offset + i < t.offset) ∨ ∃ n, outcome = .ok n)
    (hcover : ∀ t ∈ ts, ¬t.Covers (offset + i)) : isSpace c = true := by
  induction h generalizing i with
  | finish hblank => exact hblank c (List.mem_of_getElem? hi)
  | stuck =>
      rcases hafter with ⟨t, ht, -⟩ | ⟨n, hn⟩
      · cases ht
      · cases hn
  | @token offset blank rest t ts outcome hblank hoffset hne h ih =>
      rcases Nat.lt_or_ge i blank.length with hlt | hge
      · rw [List.getElem?_append_left hlt] at hi
        exact hblank c (List.mem_of_getElem? hi)
      · obtain ⟨hnot, hrest⟩ := List.forall_mem_cons.1 hcover
        have hstop : t.stop ≤ offset + i := by
          rw [Covers, not_and, not_lt] at hnot
          exact hnot (by omega)
        have hshift : t.stop + (i - (t.stop - offset)) = offset + i := by
          have := offset_lt_stop hne
          omega
        refine ih (i := i - (t.stop - offset)) ?_ ?_ ?_
        · have hdrop : (blank ++ (t.spelling.toList ++ rest)).drop (t.stop - offset) = rest :=
            drop_token hoffset
          rw [← hdrop, List.getElem?_drop, ← hi]
          congr 1
          omega
        · rw [hshift]
          refine hafter.imp_left ?_
          rintro ⟨s, hs, hlt⟩
          rcases List.mem_cons.1 hs with rfl | hs
          · omega
          · exact ⟨s, hs, hlt⟩
        · rw [hshift]
          exact hrest

theorem tiling (h : Tiles 0 cs ts outcome) : Tiling cs ts where
  spelled := h.spelled
  ordered := h.ordered
  blank i c hi hafter hcover := by
    refine h.blank hi ?_ ?_
    · rw [Nat.zero_add]
      exact Or.inl hafter
    · rwa [Nat.zero_add]

theorem eq_length {n : Nat} (h : Tiles offset cs ts (.ok n)) : n = offset + cs.length := by
  generalize ho : Except.ok n = outcome at h
  induction h with
  | finish =>
      cases ho
      rfl
  | stuck => cases ho
  | token hblank hoffset hne h ih =>
      rw [ih ho, stop, hoffset, List.length_append, List.length_append, String.length_toList]
      omega

theorem error_mem (h : Tiles offset cs ts (.error e)) :
    offset ≤ e.offset ∧ e.offset < offset + cs.length ∧ ∀ t ∈ ts, t.stop ≤ e.offset := by
  generalize ho : Except.error e = outcome at h
  induction h with
  | finish => cases ho
  | stuck hblank hle hlt =>
      cases ho
      exact ⟨by omega, hlt, List.forall_mem_nil _⟩
  | token hblank hoffset hne h ih =>
      obtain ⟨hle, hlt, hstop⟩ := ih ho
      have := offset_lt_stop hne
      refine ⟨by omega, ?_, List.forall_mem_cons.2 ⟨hle, hstop⟩⟩
      rw [List.length_append, List.length_append, String.length_toList]
      rw [stop] at hlt
      omega

end Tiles

/-- The tokens of a text tile it.  A text that is read to its end is white space wherever there is no
token, and its end is where the text ends; any other text is left at a place in it behind all tokens
that were read. -/
theorem scan_tiles (text : String) :
    Tiling text.toList (scan text).tokens ∧
      match (scan text).outcome with
      | .ok stop => stop = text.length ∧ ∀ i c, text.toList[i]? = some c →
          (∀ t ∈ (scan text).tokens, ¬t.Covers i) → isSpace c = true
      | .error e => e.offset < text.length ∧ ∀ t ∈ (scan text).tokens, t.stop ≤ e.offset := by
  have htiles : Tiles 0 text.toList (scan text).tokens (scan text).outcome :=
    scanFrom_tiles (by rw [String.length_toList]; exact Nat.lt_succ_self _)
  refine ⟨htiles.tiling, ?_⟩
  cases houtcome : (scan text).outcome with
  | ok stop =>
      rw [houtcome] at htiles
      refine ⟨?_, fun i c hi hcover => htiles.blank hi (Or.inr ⟨stop, rfl⟩) ?_⟩
      · rw [htiles.eq_length, Nat.zero_add, String.length_toList]
      · rwa [Nat.zero_add]
  | error e =>
      rw [houtcome] at htiles
      obtain ⟨-, hlt, hstop⟩ := htiles.error_mem
      rw [Nat.zero_add, String.length_toList] at hlt
      exact ⟨hlt, hstop⟩

end Elementwise.Token
