import Elementwise.Proofs.Syntax.Levels

/-!
# Reading up to the offsets

`Parser.Accepts` says that a parser reads lexemes as an expression or another part of one, whatever
the offsets of the tokens.  Groups in parentheses, lists and parts that nest one level deeper are
accepted if what they are made of is.
-/

namespace Elementwise

namespace Parser

/-! ### What follows a rendering -/

/-- The next token neither continues an expression of the rank nor is a `?`, which would turn a name
before it into a type. -/
structure Ends (rank : Nat) (ts : List Token) : Prop where
  stops : Stops rank ts
  question : after? .question ts = none

theorem Ends.mono {m n : Nat} {ts : List Token} (h : Ends m ts) (hmn : m ≤ n) : Ends n ts :=
  ⟨h.stops.mono hmn, h.question⟩

theorem ends_nil (n : Nat) : Ends n [] :=
  ⟨stops_nil n, rfl⟩

theorem ends_cons {n r : Nat} {t : Token} {ts : List Token} (ht : t.rank? = some r) (hr : r < n)
    (hq : t.punctuator? ≠ some .question) : Ends n (t :: ts) :=
  ⟨stops_cons ht hr, if_neg hq⟩

theorem ends_of_rank?_eq_none {n : Nat} {t : Token} {ts : List Token} (ht : t.rank? = none) :
    Ends n (t :: ts) := by
  refine ⟨stops_of_rank?_eq_none ht, if_neg ?_⟩
  intro hq
  simp [Token.rank?, hq] at ht

theorem ends_closing {n : Nat} {t : Token} {s : Punctuator} {ts : List Token}
    (ht : t.punctuator? = some s) (hs : isClosing s ∨ s = .comma ∨ s = .colon) :
    Ends n (t :: ts) := by
  refine ends_of_rank?_eq_none ?_
  unfold Token.punctuator? at ht
  split at ht
  · next s' hl =>
      cases ht
      cases s <;> simp_all [Token.rank?, Token.punctuator?, Token.binaryOperator?, isClosing]
  · cases ht

/-! ### Readings up to offsets -/

/-- The parser of a rank takes the lexemes and is left with the expression, to be extended. -/
def Reaches (levels rank : Nat) (ls : List Lexeme) (e : Expr) : Prop :=
  ∀ (stop : Nat) (ts rest : List Token), ts.map Token.lexeme = ls → Ends (limit rank) rest →
    ∃ e' fuel, e'.eraseOffsets = e.eraseOffsets ∧ rest.length ≤ fuel ∧
      atRank (nested levels) rank stop (ts ++ rest) =
        extend (nested levels) rank fuel e' stop rest

/-- The parser reads the lexemes as `x` where an expression of the rank ends. -/
def Accepts {α β : Type} (p : Parser α) (erase : α → β) (rank : Nat) (ls : List Lexeme) (x : α) :
    Prop :=
  ∀ (stop : Nat) (ts rest : List Token), ts.map Token.lexeme = ls → Ends rank rest →
    ∃ x', erase x' = erase x ∧ p stop (ts ++ rest) = .ok (x', rest)

variable {k n : Nat} {ls : List Lexeme} {e : Expr}

theorem Reaches.accepts (h : Reaches k n ls e) :
    Accepts (atRank (nested k) n) Expr.eraseOffsets n ls e := by
  intro stop ts rest hts hrest
  obtain ⟨e', fuel, he, -, hread⟩ := h stop ts rest hts ⟨stops_limit hrest.stops, hrest.question⟩
  exact ⟨e', he, by rw [hread, extend_of_stops hrest.stops]⟩

theorem Reaches.of_accepts (hn : n < 9)
    (h : Accepts (atRank (nested k) (n + 1)) Expr.eraseOffsets (n + 1) ls e) :
    Reaches k n ls e := by
  intro stop ts rest hts hrest
  obtain ⟨e', he, hread⟩ :=
    h stop ts rest hts ⟨stops_succ_of_limit hrest.stops, hrest.question⟩
  exact ⟨e', rest.length, he, Nat.le_refl _, atRank_of_succ hn hread hrest.stops⟩

theorem Reaches.of_le {m : Nat} (hmn : m ≤ n) (hn : n ≤ 9) (h : Reaches k n ls e) :
    Reaches k m ls e := by
  induction hmn with
  | refl => exact h
  | step _ ih => exact ih (Nat.le_of_lt hn) (.of_accepts hn h.accepts)

/-- What is read at the start of a chain is extended by the rest of it. -/
theorem reaches_of_primary
    (h : ∀ (stop : Nat) (ts rest : List Token), ts.map Token.lexeme = ls → Ends 10 rest →
      ∃ e', e'.eraseOffsets = e.eraseOffsets ∧
        primary (nested k) stop (ts ++ rest) = .ok (e', rest)) :
    Reaches k 9 ls e := by
  intro stop ts rest hts hrest
  obtain ⟨e', he, hread⟩ := h stop ts rest hts hrest
  refine ⟨e', rest.length, he, Nat.le_refl _, ?_⟩
  show postfixChain (nested k) stop (ts ++ rest) = postfixFrom (nested k) rest.length e' stop rest
  simp only [postfixChain, hread, ok_bind]

/-! ### Groups -/

section Group

variable {inner : Nested} {stop : Nat} {ts rest : List Token}

theorem punctuator?_of_lexeme {t : Token} {s : Punctuator} (h : t.lexeme = .punctuator s) :
    t.punctuator? = some s := by
  rw [Token.punctuator?, h]

theorem after?_of_lexeme {t : Token} {s : Punctuator} (h : t.lexeme = .punctuator s) :
    after? s (t :: ts) = some ts := by
  rw [after?, if_pos (punctuator?_of_lexeme h)]

theorem require_of_lexeme {t : Token} {s : Punctuator} {expected : String}
    (h : t.lexeme = .punctuator s) : require s expected stop (t :: ts) = .ok ((), ts) := by
  rw [require, after?_of_lexeme h]

theorem primary_of_ident? {t : Token} {id : Ident} (ht : t.ident? = some id)
    (hrest : Ends 10 rest) : primary inner stop (t :: rest) = .ok (.identifier id, rest) := by
  unfold Token.ident? Token.name? at ht
  split at ht
  · next name hl =>
      cases ht
      simp [primary, hl, named, hrest.stops.arrow, hrest.question]
  · cases ht

/-- An expression in parentheses is not taken for the parameter of a lambda. -/
theorem parameter?_eq_none {r : Token}
    (he : (nested (k + 1)).expression stop (ts ++ r :: rest) = .ok (e, r :: rest))
    (hrest : after? .arrow rest = none) : parameter? (ts ++ r :: rest) = none := by
  cases hp : parameter? (ts ++ r :: rest) with
  | none => rfl
  | some found =>
      obtain ⟨t, r', hts, ht, hr', harrow⟩ := parameter?_eq_some hp
      -- then the expression is that name alone, and the arrow comes after the group
      have hends : Ends 0 (r' :: found.2) := ends_closing hr' (.inl rfl)
      have hname : atRank (nested k) 0 stop (t :: r' :: found.2) =
          .ok (.identifier found.1, r' :: found.2) :=
        atRank_of_primary (Nat.zero_le 9) (primary_of_ident? ht (hends.mono (Nat.zero_le 10)))
          hends.stops
      rw [hts] at he
      have heq := he.symm.trans hname
      injection heq with heq
      injection heq with _ heq
      injection heq with _ heq
      rw [← heq, hrest] at harrow
      cases harrow

theorem primary_group {l r : Token} (hl : l.lexeme = .punctuator .openParen)
    (hr : r.lexeme = .punctuator .closeParen)
    (he : (nested (k + 1)).expression stop (ts ++ r :: rest) = .ok (e, r :: rest))
    (hrest : after? .arrow rest = none) :
    primary (nested (k + 1)) stop (l :: (ts ++ r :: rest)) = .ok (e, rest) := by
  have hp := parameter?_eq_none he hrest
  simp only [primary, hl, parenthesized, hp, he, ok_bind, require_of_lexeme hr]

end Group

theorem map_eq_close {ts : List Token} {r : Punctuator}
    (h : ts.map Token.lexeme = ls ++ [.punctuator r]) :
    ∃ us tr, ts = us ++ [tr] ∧ us.map Token.lexeme = ls ∧ tr.lexeme = .punctuator r := by
  obtain ⟨us, vs, rfl, hus, h⟩ := List.map_eq_append_iff.mp h
  obtain ⟨tr, rfl, hr⟩ := List.map_eq_singleton_iff.mp h
  exact ⟨us, tr, rfl, hus, hr⟩

theorem map_eq_enclose {ts : List Token} {l r : Punctuator}
    (h : ts.map Token.lexeme = Lexeme.enclose l r ls) :
    ∃ tl us tr, ts = tl :: (us ++ [tr]) ∧ tl.lexeme = .punctuator l ∧
      us.map Token.lexeme = ls ∧ tr.lexeme = .punctuator r := by
  obtain ⟨tl, vs, rfl, hl, h⟩ := List.map_eq_cons_iff.mp h
  obtain ⟨us, tr, rfl, hus, hr⟩ := map_eq_close h
  exact ⟨tl, us, tr, rfl, hl, hus, hr⟩

/-- What is read as an expression is read in parentheses at the start of a chain. -/
theorem primary_of_enclose (h : Reaches k 0 ls e) (stop : Nat) {ts rest : List Token}
    (hts : ts.map Token.lexeme = Lexeme.enclose .openParen .closeParen ls)
    (hrest : Stops 10 rest) :
    ∃ e', e'.eraseOffsets = e.eraseOffsets ∧
      primary (nested (k + 1)) stop (ts ++ rest) = .ok (e', rest) := by
  obtain ⟨l, us, r, rfl, hl, hus, hr⟩ := map_eq_enclose hts
  obtain ⟨e', he, hread⟩ :=
    h.accepts stop us (r :: rest) hus (ends_closing (punctuator?_of_lexeme hr) (.inl rfl))
  refine ⟨e', he, ?_⟩
  have hgroup := primary_group hl hr hread hrest.arrow
  simpa using hgroup

/-- The rendering of an expression is read where enough levels of nesting are left. -/
def ReadsBack (e : Expr) : Prop :=
  ∀ k, e.depth ≤ k → Reaches k e.rank e.render e

theorem rank_le (e : Expr) : e.rank ≤ 9 := by
  cases e with
  | binary op =>
      cases op <;> simp [Expr.rank, BinaryOperator.rank, BinaryOperator.precedence?,
        Precedence.rank]
  | _ => simp [Expr.rank]

/-- An expression is read at every place, in parentheses if it needs them there. -/
theorem ReadsBack.place (h : ReadsBack e) (hn : n ≤ 9) (hk : e.depthAt n ≤ k) :
    Reaches k n (e.renderAt n) e := by
  unfold Expr.depthAt Expr.deepen at hk
  unfold Expr.renderAt Expr.place
  split at hk
  · next hlt =>
      rw [if_pos hlt]
      obtain ⟨k, rfl⟩ := Nat.exists_eq_add_of_le' (Nat.le_trans (Nat.le_add_left 1 _) hk)
      have h0 : Reaches k 0 e.render e :=
        (h k (Nat.le_of_succ_le_succ hk)).of_le (Nat.zero_le _) (rank_le e)
      refine Reaches.of_le hn (Nat.le_refl 9) (reaches_of_primary ?_)
      intro stop ts rest hts hrest
      exact primary_of_enclose h0 stop hts hrest.stops
  · next hle =>
      rw [if_neg hle]
      exact (h k hk).of_le (Nat.not_lt.mp hle) (rank_le e)

/-! ### Lists -/

section Lists

variable {α β : Type} {item : Parser α} {erase : α → β} {write : α → List Lexeme}
variable {close : Punctuator} (expected : String) (stop : Nat) (rest : List Token)

theorem after?_comma_of_isClosing {t : Token} {ts : List Token} (ht : t.lexeme = .punctuator close)
    (hclose : isClosing close) : after? .comma (t :: ts) = none := by
  apply if_neg
  rw [punctuator?_of_lexeme ht]
  intro h
  cases h
  cases hclose

theorem itemsUntil_accepts (hclose : isClosing close) {xs : List α}
    (hitem : ∀ x ∈ xs, Accepts item erase 0 (write x) x) (hne : xs ≠ []) {fuel : Nat}
    {ts : List Token} {r : Token} (hfuel : xs.length ≤ fuel)
    (hts : ts.map Token.lexeme = Lexeme.commas (xs.map write)) (hr : r.lexeme = .punctuator close) :
    ∃ xs', xs'.map erase = xs.map erase ∧
      itemsUntil close expected item fuel stop (ts ++ r :: rest) = .ok (xs', rest) := by
  induction xs generalizing fuel ts with
  | nil => exact absurd rfl hne
  | cons x xs ih =>
      obtain ⟨fuel, rfl⟩ := Nat.exists_eq_add_of_le' (Nat.le_trans (Nat.le_add_left 1 _) hfuel)
      have hx := hitem x List.mem_cons_self
      cases xs with
      | nil =>
          have hend : Ends 0 (r :: rest) := ends_closing (punctuator?_of_lexeme hr) (.inl hclose)
          obtain ⟨x', hx', hread⟩ := hx stop ts (r :: rest) (by simpa [Lexeme.commas] using hts) hend
          refine ⟨[x'], by simp [hx'], ?_⟩
          simp only [itemsUntil, hread, ok_bind, after?_comma_of_isClosing hr hclose,
            after?_of_lexeme hr]
      | cons y ys =>
          have hsplit : ts.map Token.lexeme =
              write x ++ .punctuator .comma :: Lexeme.commas ((y :: ys).map write) := by
            simpa [Lexeme.commas, List.intercalate_cons_cons] using hts
          obtain ⟨us, vs, rfl, hus, hvs⟩ := List.map_eq_append_iff.mp hsplit
          obtain ⟨comma, vs, rfl, hcomma, hvs⟩ := List.map_eq_cons_iff.mp hvs
          have hend : Ends 0 (comma :: (vs ++ r :: rest)) :=
            ends_closing (punctuator?_of_lexeme hcomma) (.inr (.inl rfl))
          obtain ⟨x', hx', hread⟩ := hx stop us _ hus hend
          obtain ⟨ys', hys', hlist⟩ := ih (fun z hz => hitem z (List.mem_cons_of_mem x hz))
            (List.cons_ne_nil y ys) (Nat.le_of_succ_le_succ hfuel) hvs
          refine ⟨x' :: ys', by simp [hx', hys'], ?_⟩
          have hassoc : (us ++ comma :: vs) ++ r :: rest = us ++ comma :: (vs ++ r :: rest) := by
            simp
          rw [hassoc]
          simp only [itemsUntil, hread, ok_bind, after?_of_lexeme hcomma, hlist]

theorem length_commas (items : List (List Lexeme)) :
    items.length ≤ (Lexeme.commas items).length + 1 := by
  induction items with
  | nil => exact Nat.zero_le _
  | cons ls items ih =>
      cases items with
      | nil => simp
      | cons ls' items =>
          simp only [Lexeme.commas, List.intercalate_cons_cons, List.length_append,
            List.length_cons] at ih ⊢
          omega

/-- A list in brackets is read, if no item starts with the closing one. -/
theorem listUntil_accepts (hclose : isClosing close) {xs : List α}
    (hitem : ∀ x ∈ xs, Accepts item erase 0 (write x) x)
    (hstart : ∀ (t : Token) (ts : List Token), t.punctuator? = some close →
      ∃ cause, item stop (t :: ts) = .error cause)
    {ts : List Token} {r : Token}
    (hts : ts.map Token.lexeme = Lexeme.commas (xs.map write)) (hr : r.lexeme = .punctuator close) :
    ∃ xs', xs'.map erase = xs.map erase ∧
      listUntil close expected item stop (ts ++ r :: rest) = .ok (xs', rest) := by
  cases xs with
  | nil =>
      obtain rfl : ts = [] := by simpa [Lexeme.commas] using hts
      refine ⟨[], rfl, ?_⟩
      rw [List.nil_append, listUntil, after?_of_lexeme hr]
  | cons x xs =>
      have hlength : (x :: xs).length ≤ ts.length + 1 := by
        have hcommas := length_commas ((x :: xs).map write)
        rwa [← hts, List.length_map, List.length_map] at hcommas
      have hfuel : (x :: xs).length ≤ (ts ++ r :: rest).length + 1 := by
        rw [List.length_append]
        omega
      obtain ⟨xs', hxs', hread⟩ :=
        itemsUntil_accepts expected stop rest hclose hitem (List.cons_ne_nil x xs) hfuel hts hr
      refine ⟨xs', hxs', ?_⟩
      unfold listUntil
      split
      · next rest' hafter =>
          obtain ⟨t, hcons, ht⟩ := after?_eq_some hafter
          obtain ⟨cause, hcause⟩ := hstart t rest' ht
          rw [hcons, itemsUntil, hcause] at hread
          cases hread
      · exact hread

end Lists

/-! ### Parts that nest one level deeper -/

theorem ReadsBack.expression (h : ReadsBack e) (hk : e.depth + 1 ≤ k) :
    Accepts (nested k).expression Expr.eraseOffsets 0 e.render e := by
  obtain ⟨k, rfl⟩ := Nat.exists_eq_add_of_le' (Nat.le_trans (Nat.le_add_left 1 _) hk)
  exact ((h k (Nat.le_of_succ_le_succ hk)).of_le (Nat.zero_le _) (rank_le e)).accepts

theorem expression_of_isClosing (k stop : Nat) (ts : List Token) {t : Token} {s : Punctuator}
    (ht : t.punctuator? = some s) (hs : isClosing s) :
    ∃ cause, (nested k).expression stop (t :: ts) = .error cause := by
  cases k with
  | zero => exact ⟨_, rfl⟩
  | succ k => exact ⟨_, atRank_of_isClosing (Nat.zero_le 8) ht hs⟩

theorem depth_lt_depthAll {es : List Expr} (he : e ∈ es) : e.depth + 1 ≤ Expr.depthAll es := by
  induction es with
  | nil => cases he
  | cons e' es ih =>
      rw [Expr.depthAll]
      cases he with
      | head => exact Nat.le_max_left _ _
      | tail _ he => exact Nat.le_trans (ih he) (Nat.le_max_right _ _)

theorem depth_lt_depthMembers {ms : List (Ident × Expr)} {m : Ident × Expr} (hm : m ∈ ms) :
    m.2.depth + 1 ≤ Expr.depthMembers ms := by
  induction ms with
  | nil => cases hm
  | cons m' ms ih =>
      rw [Expr.depthMembers]
      cases hm with
      | head => exact Nat.le_max_left _ _
      | tail _ hm => exact Nat.le_trans (ih hm) (Nat.le_max_right _ _)

section Parts

variable (expected : String) (stop : Nat) {ts : List Token} (rest : List Token)

/-- Arguments, up to the delimiter that closes them. -/
theorem arguments_accepts {close : Punctuator} {args : List Expr} {r : Token}
    (hclose : isClosing close) (hargs : ∀ e ∈ args, ReadsBack e) (hk : Expr.depthAll args ≤ k)
    (hts : ts.map Token.lexeme = Lexeme.commas (Expr.renderAll args))
    (hr : r.lexeme = .punctuator close) :
    ∃ args', Expr.eraseAll args' = Expr.eraseAll args ∧
      arguments (nested k) close expected stop (ts ++ r :: rest) = .ok (args', rest) := by
  rw [Expr.renderAll_eq_map] at hts
  simp only [Expr.mapAll_eq_map]
  refine listUntil_accepts expected stop rest hclose ?_ ?_ hts hr
  · intro e he
    exact (hargs e he).expression (Nat.le_trans (depth_lt_depthAll he) hk)
  · intro t ts ht
    exact expression_of_isClosing k stop ts ht hclose

theorem recordMember_accepts {m : Ident × Expr} (hm : ReadsBack m.2) (hk : m.2.depth + 1 ≤ k) :
    Accepts (recordMember (nested k)) (Expr.mapMember Ident.eraseOffset fun _ => 0) 0 (Expr.renderMember m) m := by
  intro stop ts rest hts _
  obtain ⟨us, vs, rfl, hus, hvs⟩ := List.map_eq_append_iff.mp hts
  obtain ⟨word, vs, rfl, hword, hvs⟩ := List.map_eq_cons_iff.mp hvs
  obtain ⟨t, rfl, ht⟩ := List.map_eq_singleton_iff.mp hvs
  have hend : Ends 0 (word :: t :: rest) := by
    refine ends_of_rank?_eq_none ?_
    simp [Token.rank?, Token.punctuator?, Token.binaryOperator?, hword]
  obtain ⟨value, hvalue, hread⟩ := hm.expression hk stop us _ hus hend
  refine ⟨(⟨m.1.name, t.offset⟩, value), ?_, ?_⟩
  · simp [Expr.mapMember, hvalue, Ident.eraseOffset]
  · have hassoc : (us ++ [word, t]) ++ rest = us ++ word :: t :: rest := by simp
    rw [hassoc]
    simp [recordMember, hread, ok_bind, afterKeyword?, Token.keyword?, hword, ident, Token.ident?,
      Token.name?, ht]

theorem recordMember_of_isClosing (ts : List Token) {t : Token} {s : Punctuator}
    (ht : t.punctuator? = some s) (hs : isClosing s) :
    ∃ cause, recordMember (nested k) stop (t :: ts) = .error cause := by
  obtain ⟨cause, hcause⟩ := expression_of_isClosing k stop ts ht hs
  exact ⟨cause, by rw [recordMember, hcause, error_bind]⟩

end Parts

end Parser

end Elementwise
