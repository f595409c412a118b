import Elementwise.Proofs.Syntax.Reading
import Elementwise.Proofs.Syntax.Rendering

/-!
# The levels of the grammar by rank

`Parser.atRank inner n` reads the expressions whose rank is at least `n`.  It first reads one of the
next higher rank and then extends it as long as the next token lets it.  Where the next token does
not continue an expression of rank `n` or higher, everything that a higher level reads is therefore
read by the lower ones too, and what the higher level rejects they reject.
-/

namespace Elementwise

/-! ### The rank of what follows -/

namespace Token

/-- The rank of the expressions that a token can continue. -/
def rank? (t : Token) : Option Nat :=
  match t.punctuator? with
  | some .arrow => some 10
  | some .dot | some .openParen | some .openBracket => some 9
  | some .question => some 0
  | _ => t.binaryOperator?.map BinaryOperator.rank

theorem rank?_of_binaryOperator? {t : Token} {op : BinaryOperator}
    (h : t.binaryOperator? = some op) : t.rank? = some op.rank := by
  have hs : t.rank? = t.binaryOperator?.map BinaryOperator.rank := by
    unfold rank? punctuator?
    unfold binaryOperator? at h
    split at h <;> simp_all
  rw [hs, h, Option.map_some]

end Token

namespace Parser

/-- The next token, if there is one, continues no expression of the rank or a higher one. -/
def Stops (rank : Nat) (ts : List Token) : Prop :=
  ∀ t ∈ ts.head?, ∀ r ∈ t.rank?, r < rank

theorem Stops.mono {m n : Nat} {ts : List Token} (h : Stops m ts) (hmn : m ≤ n) : Stops n ts :=
  fun t ht r hr => Nat.lt_of_lt_of_le (h t ht r hr) hmn

theorem stops_nil (n : Nat) : Stops n [] := by
  intro t ht
  cases ht

theorem stops_cons {n r : Nat} {t : Token} {ts : List Token} (ht : t.rank? = some r) (hr : r < n) :
    Stops n (t :: ts) := by
  intro t' ht' r' hr'
  cases ht'
  rw [ht] at hr'
  cases hr'
  exact hr

theorem stops_of_rank?_eq_none {n : Nat} {t : Token} {ts : List Token} (ht : t.rank? = none) :
    Stops n (t :: ts) := by
  intro t' ht' r hr
  cases ht'
  rw [ht] at hr
  cases hr

theorem Stops.after?_eq_none {n r : Nat} {s : Punctuator} {ts : List Token} (h : Stops n ts)
    (hs : ∀ t : Token, t.punctuator? = some s → t.rank? = some r) (hr : n ≤ r) :
    after? s ts = none := by
  cases ts with
  | nil => rfl
  | cons t ts =>
      by_cases ht : t.punctuator? = some s
      · exact absurd (h t rfl r (hs t ht)) (Nat.not_lt.mpr hr)
      · simp only [after?, if_neg ht]

theorem Stops.arrow {ts : List Token} (h : Stops 10 ts) : after? .arrow ts = none :=
  h.after?_eq_none (r := 10) (fun t ht => by simp [Token.rank?, ht]) (Nat.le_refl 10)

theorem Stops.question {ts : List Token} (h : Stops 0 ts) : after? .question ts = none :=
  h.after?_eq_none (r := 0) (fun t ht => by simp [Token.rank?, ht]) (Nat.le_refl 0)

theorem Stops.questions {ts : List Token} (h : Stops 1 ts) : after? .questions ts = none :=
  h.after?_eq_none (fun _ ht => Token.rank?_of_binaryOperator? (binaryOperator?_questions ht))
    (Nat.le_refl 1)

/-! ### Levels -/

/-- The level of a rank. -/
def ofRank? (rank : Nat) : Option Precedence :=
  Precedence.tightestFirst.find? fun level => level.rank == rank

theorem ofRank?_rank (level : Precedence) : ofRank? level.rank = some level := by
  cases level <;> rfl

/-- The parser of the expressions of a rank and of all higher ones. -/
def atRank (inner : Nested) : (rank : Nat) → Parser Expr
  | 0 => conditional inner
  | 1 => coalesce (operators (unary inner))
  | 9 => postfixChain inner
  | rank =>
    (Precedence.tightestFirst.take (8 - rank)).foldl (fun operand level => chain level operand)
      (unary inner)

/-- How the parser of a rank goes on after its first part. -/
def extend (inner : Nested) (rank fuel : Nat) (e : Expr) : Parser Expr :=
  match ofRank? rank with
  | some level => chainFrom level (atRank inner (rank + 1)) fuel e
  | none => if rank = 9 then postfixFrom inner fuel e else fun _ ts => .ok (e, ts)

variable {inner : Nested} {stop : Nat} {ts rest : List Token} {e : Expr}

theorem atRank_rank (level : Precedence) :
    atRank inner level.rank = chain level (atRank inner (level.rank + 1)) := by
  cases level <;> rfl

theorem extend_rank (level : Precedence) (fuel : Nat) :
    extend inner level.rank fuel e = chainFrom level (atRank inner (level.rank + 1)) fuel e := by
  rw [extend, ofRank?_rank]

/-- The ranks below that of chains of member access, calls and indexing. -/
theorem rank_cases : ∀ {n : Nat}, n < 9 →
    n = 0 ∨ n = 1 ∨ n = 8 ∨ ∃ level : Precedence, n = level.rank
  | 0, _ => .inl rfl
  | 1, _ => .inr (.inl rfl)
  | 2, _ => .inr (.inr (.inr ⟨.or, rfl⟩))
  | 3, _ => .inr (.inr (.inr ⟨.and, rfl⟩))
  | 4, _ => .inr (.inr (.inr ⟨.equality, rfl⟩))
  | 5, _ => .inr (.inr (.inr ⟨.relational, rfl⟩))
  | 6, _ => .inr (.inr (.inr ⟨.additive, rfl⟩))
  | 7, _ => .inr (.inr (.inr ⟨.multiplicative, rfl⟩))
  | 8, _ => .inr (.inr (.inl rfl))

/-! ### Where an expression ends -/

theorem chainFrom_of_stops {level : Precedence} {operand : Parser Expr} {fuel : Nat}
    (h : Stops level.rank rest) :
    chainFrom level operand fuel e stop rest = .ok (e, rest) := by
  cases fuel with
  | zero => rfl
  | succ fuel =>
      cases rest with
      | nil => rfl
      | cons t rest =>
          unfold chainFrom
          split
          · next op hop =>
              have hne : op.precedence? ≠ some level := by
                intro hl
                have hrank : op.rank = level.rank := by rw [BinaryOperator.rank, hl]
                have hlt := h t rfl op.rank (Token.rank?_of_binaryOperator? hop)
                omega
              rw [if_neg hne]
          · rfl

theorem postfixFrom_of_stops {fuel : Nat} (h : Stops 9 rest) :
    postfixFrom inner fuel e stop rest = .ok (e, rest) := by
  cases fuel with
  | zero => rfl
  | succ fuel =>
      cases rest with
      | nil => rfl
      | cons t rest =>
          have hne : ∀ s, t.punctuator? = some s → t.rank? = some 9 → False := by
            intro s _ hr
            exact Nat.lt_irrefl 9 (h t rfl 9 hr)
          unfold postfixFrom
          split
          · next ht => exact (hne _ ht (by simp [Token.rank?, ht])).elim
          · next ht => exact (hne _ ht (by simp [Token.rank?, ht])).elim
          · next ht => exact (hne _ ht (by simp [Token.rank?, ht])).elim
          · rfl

theorem extend_of_stops {rank fuel : Nat} (h : Stops rank rest) :
    extend inner rank fuel e stop rest = .ok (e, rest) := by
  cases hl : ofRank? rank with
  | some level =>
      have hr : level.rank = rank := by simpa using List.find?_some hl
      simp only [extend, hl]
      exact chainFrom_of_stops (hr ▸ h)
  | none =>
      simp only [extend, hl]
      split
      · next h9 => exact postfixFrom_of_stops (h9 ▸ h)
      · rfl

/-! ### From one rank to the next lower one -/

theorem primary_of_unaryOperator? {t : Token} {op : UnaryOperator}
    (h : t.unaryOperator? = some op) :
    primary inner stop (t :: ts) = .error (unexpected "an expression" stop (t :: ts)) := by
  unfold Token.unaryOperator? at h
  unfold primary
  split at h <;> simp_all

theorem unary_of_postfixChain (h : postfixChain inner stop ts = .ok (e, rest)) :
    unary inner stop ts = .ok (e, rest) := by
  cases ts with
  | nil => exact h
  | cons t ts =>
      cases hop : t.unaryOperator? with
      | none => simpa only [unary, hop] using h
      | some op =>
          simp only [postfixChain, primary_of_unaryOperator? hop] at h
          cases h

theorem coalesceFrom_of_operand {operand : Parser Expr} {fuel : Nat}
    (h : operand stop ts = .ok (e, rest)) (hrest : after? .questions rest = none) :
    coalesceFrom operand fuel stop ts = .ok (e, rest) := by
  cases fuel with
  | zero => exact h
  | succ fuel =>
      simp only [coalesceFrom, h, ok_bind, hrest]

theorem coalesceFrom_mono {operand : Parser Expr} {fuel fuel' : Nat} (hfuel : fuel ≤ fuel')
    (h : coalesceFrom operand fuel stop ts = .ok (e, rest))
    (hrest : after? .questions rest = none) :
    coalesceFrom operand fuel' stop ts = .ok (e, rest) := by
  induction fuel generalizing fuel' ts e with
  | zero => exact coalesceFrom_of_operand h hrest
  | succ fuel ih =>
      obtain ⟨fuel', rfl⟩ := Nat.exists_eq_add_of_le' (Nat.le_trans (Nat.le_add_left 1 _) hfuel)
      obtain ⟨⟨left, ts₁⟩, hleft, hnext⟩ := bind_eq_ok h
      simp only [coalesceFrom, hleft, ok_bind]
      simp only at hnext
      split at hnext
      · next ts₂ hq =>
          obtain ⟨⟨right, ts₃⟩, hright, hlast⟩ := bind_eq_ok hnext
          cases hlast
          simp only [ih (Nat.le_of_succ_le_succ hfuel) hright, ok_bind]
      · exact hnext

/-- What a text that is read by the parser of a rank may go on with: the operators that group to the
right would take it for their right operand. -/
def limit (rank : Nat) : Nat :=
  if rank < 2 then rank else rank + 1

theorem stops_limit {n : Nat} (h : Stops n rest) : Stops (limit n) rest :=
  h.mono (by unfold limit; split <;> omega)

theorem stops_succ_of_limit {n : Nat} (h : Stops (limit n) rest) : Stops (n + 1) rest :=
  h.mono (by unfold limit; split <;> omega)

theorem atRank_of_succ {n : Nat} (hn : n < 9) (h : atRank inner (n + 1) stop ts = .ok (e, rest))
    (hs : Stops (limit n) rest) :
    atRank inner n stop ts = extend inner n rest.length e stop rest := by
  obtain rfl | rfl | rfl | ⟨level, rfl⟩ := rank_cases hn
  · have hs0 : Stops 0 rest := hs
    have hc : coalesce (operators (unary inner)) stop ts = .ok (e, rest) := h
    rw [extend_of_stops hs0]
    simp only [atRank, conditional, hc, ok_bind, hs0.question]
  · have hs1 : Stops 1 rest := hs
    rw [extend_of_stops hs1]
    exact coalesceFrom_of_operand h hs1.questions
  · exact unary_of_postfixChain h
  · rw [atRank_rank, extend_rank]
    simp only [chain, h, ok_bind]

theorem atRank_of_le {m n : Nat} (hmn : m ≤ n) (hn : n ≤ 9)
    (h : atRank inner n stop ts = .ok (e, rest)) (hs : Stops m rest) :
    atRank inner m stop ts = .ok (e, rest) := by
  induction hmn with
  | refl => exact h
  | @step n hmn ih =>
      have hs' : Stops n rest := hs.mono hmn
      apply ih (Nat.le_of_lt hn)
      rw [atRank_of_succ hn h (stops_limit hs'), extend_of_stops hs']

theorem atRank_of_primary {n : Nat} (hn : n ≤ 9) (h : primary inner stop ts = .ok (e, rest))
    (hs : Stops n rest) : atRank inner n stop ts = .ok (e, rest) := by
  refine atRank_of_le hn (Nat.le_refl 9) ?_ hs
  show postfixChain inner stop ts = .ok (e, rest)
  rw [postfixChain, h, ok_bind]
  exact postfixFrom_of_stops (hs.mono hn)

/-! ### No expression starts with a closing delimiter -/

/-- The delimiters that close a list or a group. -/
def isClosing : Punctuator → Bool
  | .closeParen | .closeBracket | .closeBrace => true
  | _ => false

theorem primary_of_isClosing {t : Token} {s : Punctuator} (ht : t.punctuator? = some s)
    (hs : isClosing s) :
    primary inner stop (t :: ts) = .error (unexpected "an expression" stop (t :: ts)) := by
  unfold Token.punctuator? at ht
  unfold primary
  split at ht
  · next s' hl =>
      cases ht
      cases s <;> simp_all [isClosing]
  · cases ht

theorem unaryOperator?_of_isClosing {t : Token} {s : Punctuator} (ht : t.punctuator? = some s)
    (hs : isClosing s) : t.unaryOperator? = none := by
  unfold Token.punctuator? at ht
  unfold Token.unaryOperator?
  split at ht
  · next s' hl =>
      cases ht
      cases s <;> simp_all [isClosing]
  · cases ht

theorem atRank_of_error {n : Nat} {x : SyntaxError} (hn : n < 8)
    (h : atRank inner (n + 1) stop ts = .error x) : atRank inner n stop ts = .error x := by
  obtain rfl | rfl | rfl | ⟨level, rfl⟩ := rank_cases (Nat.lt_succ_of_lt hn)
  · have hc : coalesce (operators (unary inner)) stop ts = .error x := h
    simp only [atRank, conditional, hc, error_bind]
  · have ho : operators (unary inner) stop ts = .error x := h
    cases ts with
    | nil => exact ho
    | cons t ts => simp only [atRank, coalesce, List.length_cons, coalesceFrom, ho, error_bind]
  · exact absurd hn (Nat.lt_irrefl 8)
  · rw [atRank_rank]
    simp only [chain, h, error_bind]

theorem atRank_of_isClosing {n : Nat} (hn : n ≤ 8) {t : Token} {s : Punctuator}
    (ht : t.punctuator? = some s) (hs : isClosing s) :
    atRank inner n stop (t :: ts) = .error (unexpected "an expression" stop (t :: ts)) := by
  obtain ⟨d, hd⟩ := Nat.exists_eq_add_of_le hn
  induction d generalizing n with
  | zero =>
      cases hd
      show unary inner stop (t :: ts) = _
      simp only [unary, unaryOperator?_of_isClosing ht hs, postfixChain,
        primary_of_isClosing ht hs, error_bind]
  | succ d ih => exact atRank_of_error (by omega) (ih (by omega) (by omega))

end Parser

end Elementwise
