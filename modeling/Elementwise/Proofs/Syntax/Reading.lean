import Elementwise.Proofs.Outcome
import Elementwise.Proofs.Syntax.Spelling

/-!
# The parser takes every token that it passes into account

`Parser.Reads p R` says that whatever `p` returns is in the relation `R` to the tokens that it has
taken from the left.  Every parser of the grammar reads spellings, given that the parsers of the next
deeper level do, and so does the parser of every depth.  A text is read up to its end, so all of its
tokens spell the expression.
-/

namespace Elementwise

namespace Parser

/-- What a parser returns is related to the tokens that it takes. -/
def Reads {α : Type} (p : Parser α) (R : α → List Token → Prop) : Prop :=
  ∀ (stop : Nat) (ts : List Token) (x : α) (rest : List Token),
    p stop ts = .ok (x, rest) → ∃ used, ts = used ++ rest ∧ R x used

variable {α : Type} {R : α → List Token → Prop} {p : Parser α}

/-! ### Single tokens -/

theorem after?_eq_some {s : Punctuator} {ts rest : List Token} (h : after? s ts = some rest) :
    ∃ t, ts = t :: rest ∧ t.punctuator? = some s := by
  cases ts with
  | nil => cases h
  | cons t ts =>
      simp only [after?] at h
      split at h
      · next ht =>
          cases h
          exact ⟨t, rfl, ht⟩
      · cases h

theorem afterKeyword?_eq_some {k : Keyword} {ts rest : List Token}
    (h : afterKeyword? k ts = some rest) : ∃ t, ts = t :: rest ∧ t.keyword? = some k := by
  cases ts with
  | nil => cases h
  | cons t ts =>
      simp only [afterKeyword?] at h
      split at h
      · next ht =>
          cases h
          exact ⟨t, rfl, ht⟩
      · cases h

theorem require_eq_ok {s : Punctuator} {expected : String} {stop : Nat} {ts rest : List Token}
    {u : Unit} (h : require s expected stop ts = .ok (u, rest)) :
    ∃ t, ts = t :: rest ∧ t.punctuator? = some s := by
  unfold require at h
  split at h
  · next ha =>
      cases h
      exact after?_eq_some ha
  · cases h

theorem ident_eq_ok {expected : String} {stop : Nat} {ts rest : List Token} {id : Ident}
    (h : ident expected stop ts = .ok (id, rest)) :
    ∃ t, ts = t :: rest ∧ t.ident? = some id := by
  cases ts with
  | nil => cases h
  | cons t ts =>
      simp only [ident] at h
      split at h
      · next ht =>
          cases h
          exact ⟨t, rfl, ht⟩
      · cases h

theorem param?_of_ident? {t : Token} {id : Ident} (h : t.ident? = some id) :
    t.param? = some id := by
  unfold Token.ident? Token.name? at h
  unfold Token.param?
  split at h
  · next hs =>
      cases h
      rw [hs]
  · cases h

theorem parameter?_eq_some {ts rest : List Token} {id : Ident}
    (h : parameter? ts = some (id, rest)) :
    ∃ t r, ts = t :: r :: rest ∧ t.ident? = some id ∧ r.punctuator? = some .closeParen ∧
      (after? .arrow rest).isSome := by
  cases ts with
  | nil => cases h
  | cons t ts =>
      obtain ⟨id', hid, hnext⟩ := Option.bind_eq_some_iff.mp h
      obtain ⟨ts₁, hr', hlast⟩ := Option.bind_eq_some_iff.mp hnext
      obtain ⟨r, rfl, hr⟩ := after?_eq_some hr'
      split at hlast
      · next harrow =>
          cases hlast
          exact ⟨t, r, rfl, hid, hr, harrow⟩
      · cases hlast

/-! ### Lists -/

/-- Items with commas between them, and the delimiter that closes them. -/
def Closed (close : Punctuator) (R : α → List Token → Prop) (xs : List α) (ts : List Token) :
    Prop :=
  ∃ us t, ts = us ++ [t] ∧ Separated R xs us ∧ t.punctuator? = some close

theorem itemsUntil_reads {close : Punctuator} {expected : String} (hp : Reads p R) (fuel : Nat) :
    Reads (itemsUntil close expected p fuel) fun xs us => xs ≠ [] ∧ Closed close R xs us := by
  induction fuel with
  | zero =>
      intro stop ts xs rest h
      cases h
  | succ fuel ih =>
      intro stop ts xs rest h
      obtain ⟨⟨x, ts₁⟩, hx, hlist⟩ := bind_eq_ok h
      obtain ⟨us, rfl, hus⟩ := hp _ _ _ _ hx
      simp only at hlist
      split at hlist
      · next ts₂ hcomma =>
          obtain ⟨⟨ys, ts₃⟩, hys, hlist⟩ := bind_eq_ok hlist
          cases hlist
          obtain ⟨comma, rfl, ht⟩ := after?_eq_some hcomma
          obtain ⟨_, rfl, hne, vs, r, rfl, hvs, hr⟩ := ih _ _ _ _ hys
          obtain ⟨y, ys, rfl⟩ := List.exists_cons_of_ne_nil hne
          refine ⟨us ++ comma :: (vs ++ [r]), ?_, nofun, us ++ comma :: vs, r, ?_, ?_, hr⟩
          · simp
          · simp
          · exact .cons hus ht hvs
      · next ts₂ _ hclose =>
          cases hlist
          obtain ⟨r, rfl, hr⟩ := after?_eq_some hclose
          exact ⟨us ++ [r], by simp, nofun, us, r, rfl, .single hus, hr⟩
      · cases hlist

theorem listUntil_reads {close : Punctuator} {expected : String} (hp : Reads p R) :
    Reads (listUntil close expected p) (Closed close R) := by
  intro stop ts xs rest h
  unfold listUntil at h
  split at h
  · next hclose =>
      cases h
      obtain ⟨r, rfl, hr⟩ := after?_eq_some hclose
      exact ⟨[r], rfl, [], r, rfl, .nil, hr⟩
  · obtain ⟨us, rfl, -, hus⟩ := itemsUntil_reads hp _ _ _ _ _ h
    exact ⟨us, rfl, hus⟩

/-! ### Operators -/

section Operators

variable {operand : Parser Expr}

/-- Operators of one level are read after an expression that has been read from `us`. -/
theorem chainFrom_reads {level : Precedence} (hp : Reads operand Expr.Spells) (fuel : Nat)
    {left : Expr} {us : List Token} (hleft : left.Spells us) :
    Reads (chainFrom level operand fuel left) fun e vs => e.Spells (us ++ vs) := by
  induction fuel generalizing left us with
  | zero =>
      intro stop ts e rest h
      cases h
      exact ⟨[], rfl, by simpa using hleft⟩
  | succ fuel ih =>
      intro stop ts e rest h
      have hdone : ∀ {ts : List Token}, Except.ok (left, ts) = Except.ok (ε := SyntaxError) (e, rest) →
          ∃ used, ts = used ++ rest ∧ e.Spells (us ++ used) := by
        intro ts h
        cases h
        exact ⟨[], rfl, by simpa using hleft⟩
      cases ts with
      | nil => exact hdone h
      | cons t ts =>
          simp only [chainFrom] at h
          split at h
          · next op hop =>
              split at h
              · obtain ⟨⟨right, ts₁⟩, hright, hnext⟩ := bind_eq_ok h
                obtain ⟨vs, rfl, hvs⟩ := hp _ _ _ _ hright
                obtain ⟨ws, rfl, hws⟩ := ih (.binary hleft hop hvs) _ _ _ _ hnext
                exact ⟨t :: (vs ++ ws), by simp, by simpa using hws⟩
              · exact hdone h
          · exact hdone h

theorem chain_reads {level : Precedence} (hp : Reads operand Expr.Spells) :
    Reads (chain level operand) Expr.Spells := by
  intro stop ts e rest h
  obtain ⟨⟨left, ts₁⟩, hleft, hchain⟩ := bind_eq_ok h
  obtain ⟨us, rfl, hus⟩ := hp _ _ _ _ hleft
  obtain ⟨vs, rfl, hvs⟩ := chainFrom_reads hp _ hus _ _ _ _ hchain
  exact ⟨us ++ vs, by simp, hvs⟩

theorem operators_reads (hp : Reads operand Expr.Spells) :
    Reads (operators operand) Expr.Spells := by
  unfold operators
  induction Precedence.tightestFirst generalizing operand with
  | nil => exact hp
  | cons level levels ih => exact ih (chain_reads hp)

theorem binaryOperator?_questions {t : Token} (h : t.punctuator? = some .questions) :
    t.binaryOperator? = some .coalesce := by
  unfold Token.punctuator? at h
  unfold Token.binaryOperator?
  split at h
  · next hs =>
      cases h
      rw [hs]
  · cases h

theorem coalesceFrom_reads (hp : Reads operand Expr.Spells) (fuel : Nat) :
    Reads (coalesceFrom operand fuel) Expr.Spells := by
  induction fuel with
  | zero => exact hp
  | succ fuel ih =>
      intro stop ts e rest h
      obtain ⟨⟨left, ts₁⟩, hleft, hnext⟩ := bind_eq_ok h
      obtain ⟨us, rfl, hus⟩ := hp _ _ _ _ hleft
      simp only at hnext
      split at hnext
      · next rest₁ hq =>
          obtain ⟨⟨right, rest₂⟩, hright, hnext⟩ := bind_eq_ok hnext
          cases hnext
          obtain ⟨t, rfl, ht⟩ := after?_eq_some hq
          obtain ⟨vs, rfl, hvs⟩ := ih _ _ _ _ hright
          exact ⟨us ++ t :: vs, by simp, .binary hus (binaryOperator?_questions ht) hvs⟩
      · cases hnext
        exact ⟨us, rfl, hus⟩

end Operators

/-! ### The levels of one depth -/

section Levels

variable {inner : Nested} (hinner : Reads inner.expression Expr.Spells)
include hinner

theorem arguments_reads {close : Punctuator} {expected : String} :
    Reads (arguments inner close expected) (Closed close Expr.Spells) :=
  listUntil_reads hinner

/-- The arguments of a form are in parentheses, and as many as the form takes. -/
theorem fixedArguments_reads {form : String} {count offset : Nat} :
    Reads (fixedArguments inner form count offset) fun args ts => ∃ l us,
      ts = l :: us ∧ l.punctuator? = some .openParen ∧
        Closed .closeParen Expr.Spells args us ∧ args.length = count := by
  intro stop ts args rest h
  obtain ⟨⟨_, ts₁⟩, hopen, hnext⟩ := bind_eq_ok h
  obtain ⟨⟨args', ts₂⟩, hargs, hlast⟩ := bind_eq_ok hnext
  obtain ⟨l, rfl, hl⟩ := require_eq_ok hopen
  obtain ⟨us, rfl, hus⟩ := arguments_reads hinner _ _ _ _ hargs
  simp only at hlast
  split at hlast
  · next hcount =>
      cases hlast
      exact ⟨l :: us, rfl, l, us, rfl, hl, hus, hcount⟩
  · cases hlast

theorem lambdaBody_reads (param : Ident) :
    Reads (lambdaBody inner param) fun e ts => ∃ arrow us body,
      ts = arrow :: us ∧ arrow.punctuator? = some .arrow ∧ e = .lambda param body ∧
        body.Spells us := by
  intro stop ts e rest h
  obtain ⟨⟨_, ts₁⟩, harrow, hnext⟩ := bind_eq_ok h
  obtain ⟨⟨body, ts₂⟩, hbody, hlast⟩ := bind_eq_ok hnext
  obtain ⟨arrow, rfl, ht⟩ := require_eq_ok harrow
  obtain ⟨us, rfl, hus⟩ := hinner _ _ _ _ hbody
  cases hlast
  exact ⟨arrow :: us, rfl, arrow, us, body, rfl, ht, rfl, hus⟩

theorem recordMember_reads : Reads (recordMember inner) Expr.SpellsMember := by
  intro stop ts m rest h
  obtain ⟨⟨value, ts₁⟩, hvalue, hnext⟩ := bind_eq_ok h
  obtain ⟨us, rfl, hus⟩ := hinner _ _ _ _ hvalue
  simp only at hnext
  split at hnext
  · next hword' =>
      obtain ⟨⟨name, ts₂⟩, hname, hlast⟩ := bind_eq_ok hnext
      obtain ⟨word, rfl, hword⟩ := afterKeyword?_eq_some hword'
      obtain ⟨t, rfl, ht⟩ := ident_eq_ok hname
      cases hlast
      exact ⟨us ++ [word, t], by simp, .intro hus hword ht⟩
  · cases hnext

theorem newForm_reads {t : Token} (ht : t.keyword? = some .new) :
    Reads (newForm inner t.offset) fun e us => e.Spells (t :: us) := by
  intro stop ts e rest h
  unfold newForm at h
  split at h
  · next hl' =>
      obtain ⟨⟨_, ts₁⟩, hr', hnext⟩ := bind_eq_ok h
      obtain ⟨⟨_, ts₂⟩, hll', hlist⟩ := bind_eq_ok hnext
      obtain ⟨⟨elements, ts₃⟩, helements, hlast⟩ := bind_eq_ok hlist
      obtain ⟨l, rfl, hl⟩ := after?_eq_some hl'
      obtain ⟨r, rfl, hr⟩ := require_eq_ok hr'
      obtain ⟨ll, rfl, hll⟩ := require_eq_ok hll'
      obtain ⟨_, rfl, us, rr, rfl, hus, hrr⟩ := arguments_reads hinner _ _ _ _ helements
      cases hlast
      exact ⟨l :: r :: ll :: (us ++ [rr]), rfl, .array ht hl hr hll hus hrr⟩
  · next hl' =>
      obtain ⟨⟨members, ts₁⟩, hmembers, hlast⟩ := bind_eq_ok h
      obtain ⟨l, rfl, hl⟩ := after?_eq_some hl'
      obtain ⟨_, rfl, us, r, rfl, hus, hr⟩ :=
        listUntil_reads (recordMember_reads hinner) _ _ _ _ hmembers
      cases hlast
      exact ⟨l :: (us ++ [r]), rfl, .record ht hl hus hr⟩
  · cases h

theorem named_reads {t : Token} {id : Ident} (ht : t.ident? = some id) :
    Reads (named inner id) fun e us => e.Spells (t :: us) := by
  intro stop ts e rest h
  unfold named at h
  split at h
  · obtain ⟨_, rfl, arrow, us, body, rfl, harrow, rfl, hus⟩ := lambdaBody_reads hinner _ _ _ _ _ h
    exact ⟨arrow :: us, rfl, .lambda (param?_of_ident? ht) harrow hus⟩
  · split at h
    · next hform =>
        obtain ⟨ts₁, hq', hl'⟩ := Option.bind_eq_some_iff.mp hform
        obtain ⟨q, rfl, hq⟩ := after?_eq_some hq'
        obtain ⟨l, rfl, hl⟩ := after?_eq_some hl'
        obtain ⟨⟨args, ts₂⟩, hargs, hlast⟩ := bind_eq_ok h
        obtain ⟨_, rfl, us, r, rfl, hus, hr⟩ := arguments_reads hinner _ _ _ _ hargs
        cases hlast
        exact ⟨q :: l :: (us ++ [r]), rfl, .nullableConversion ht hq hl hus hr⟩
    · cases h
      exact ⟨[], rfl, .identifier ht⟩

theorem parenthesized_reads {l : Token} (hl : l.punctuator? = some .openParen) :
    Reads (parenthesized inner) fun e us => e.Spells (l :: us) := by
  intro stop ts e rest h
  unfold parenthesized at h
  split at h
  · next id ts₁ hparam =>
      obtain ⟨t, r, rfl, ht, hr, -⟩ := parameter?_eq_some hparam
      obtain ⟨_, rfl, arrow, us, body, rfl, harrow, rfl, hus⟩ :=
        lambdaBody_reads hinner _ _ _ _ _ h
      exact ⟨t :: r :: arrow :: us, rfl, .parenLambda hl ht hr harrow hus⟩
  · obtain ⟨⟨e', ts₁⟩, he, hnext⟩ := bind_eq_ok h
    obtain ⟨⟨_, ts₂⟩, hr', hlast⟩ := bind_eq_ok hnext
    obtain ⟨us, rfl, hus⟩ := hinner _ _ _ _ he
    obtain ⟨r, rfl, hr⟩ := require_eq_ok hr'
    cases hlast
    exact ⟨us ++ [r], by simp, .group hl hus hr⟩

theorem primary_reads : Reads (primary inner) Expr.Spells := by
  intro stop ts e rest h
  cases ts with
  | nil => cases h
  | cons t ts =>
      unfold primary at h
      simp only at h
      -- each token that stands for an expression by itself
      have hone : ∀ {e' : Expr}, e'.Spells [t] →
          Except.ok (e', ts) = Except.ok (ε := SyntaxError) (e, rest) →
          ∃ used, t :: ts = used ++ rest ∧ e.Spells used := by
        intro e' he' h
        cases h
        exact ⟨[t], rfl, he'⟩
      -- each token that introduces a longer form
      have hmore : ∀ {p : Parser Expr}, Reads p (fun e us => e.Spells (t :: us)) →
          p stop ts = .ok (e, rest) → ∃ used, t :: ts = used ++ rest ∧ e.Spells used := by
        intro p hp h
        obtain ⟨us, rfl, hus⟩ := hp _ _ _ _ h
        exact ⟨t :: us, rfl, hus⟩
      split at h
      · next hs => exact hone (.literal (by simp [Token.literal?, hs])) h
      · next hs => exact hone (.literal (by simp [Token.literal?, hs])) h
      · next hs => exact hone (.literal (by simp [Token.literal?, hs])) h
      · next hs => exact hone (.literal (by simp [Token.literal?, hs])) h
      · next hs => exact hone (.literal (by simp [Token.literal?, hs])) h
      · next hs => exact hone (.null (by simp [Token.keyword?, hs])) h
      · next hs =>
          split at h
          · obtain ⟨_, rfl, arrow, us, body, rfl, harrow, rfl, hus⟩ :=
              lambdaBody_reads hinner _ _ _ _ _ h
            exact ⟨t :: arrow :: us, rfl, .lambda (by simp [Token.param?, hs]) harrow hus⟩
          · exact hone (.it (by simp [Token.keyword?, hs])) h
      · next name hs =>
          have ht : t.ident? = some ⟨name, t.offset⟩ := by simp [Token.ident?, Token.name?, hs]
          exact hmore (named_reads hinner ht) h
      · next hs =>
          have ht : t.punctuator? = some .openParen := by simp [Token.punctuator?, hs]
          exact hmore (parenthesized_reads hinner ht) h
      · next hs =>
          have ht : t.keyword? = some .new := by simp [Token.keyword?, hs]
          exact hmore (newForm_reads hinner ht) h
      · next hs =>
          have ht : t.keyword? = some .np := by simp [Token.keyword?, hs]
          obtain ⟨⟨args, ts₁⟩, hargs, hnext⟩ := bind_eq_ok h
          obtain ⟨_, rfl, l, _, rfl, hl, ⟨us, r, rfl, hus, hr⟩, -⟩ :=
            fixedArguments_reads hinner _ _ _ _ hargs
          split at hnext
          · next heq =>
              cases heq
              cases hnext
              exact ⟨t :: l :: (us ++ [r]), rfl, .nullPropagation ht hl hus hr⟩
          · cases hnext
      · next hs =>
          have ht : t.keyword? = some .iif := by simp [Token.keyword?, hs]
          obtain ⟨⟨args, ts₁⟩, hargs, hnext⟩ := bind_eq_ok h
          obtain ⟨_, rfl, l, _, rfl, hl, ⟨us, r, rfl, hus, hr⟩, -⟩ :=
            fixedArguments_reads hinner _ _ _ _ hargs
          split at hnext
          · next heq =>
              cases heq
              cases hnext
              exact ⟨t :: l :: (us ++ [r]), rfl, .iif ht hl hus hr⟩
          · cases hnext
      · cases h

/-- Member accesses, calls and indexings are read after an expression that has been read from
`us`. -/
theorem postfixFrom_reads (fuel : Nat) {e : Expr} {us : List Token} (he : e.Spells us) :
    Reads (postfixFrom inner fuel e) fun e' vs => e'.Spells (us ++ vs) := by
  induction fuel generalizing e us with
  | zero =>
      intro stop ts e' rest h
      cases h
      exact ⟨[], rfl, by simpa using he⟩
  | succ fuel ih =>
      intro stop ts e' rest h
      cases ts with
      | nil =>
          cases h
          exact ⟨[], rfl, by simpa using he⟩
      | cons t ts =>
          simp only [postfixFrom] at h
          split at h
          · next ht =>
              obtain ⟨⟨name, ts₁⟩, hname, hnext⟩ := bind_eq_ok h
              obtain ⟨t', rfl, ht'⟩ := ident_eq_ok hname
              obtain ⟨vs, rfl, hvs⟩ := ih (.member he ht ht') _ _ _ _ hnext
              exact ⟨t :: t' :: vs, rfl, by simpa using hvs⟩
          · next ht =>
              obtain ⟨⟨args, ts₁⟩, hargs, hnext⟩ := bind_eq_ok h
              obtain ⟨_, rfl, vs, r, rfl, hvs, hr⟩ := arguments_reads hinner _ _ _ _ hargs
              obtain ⟨ws, rfl, hws⟩ := ih (.call he ht hvs hr) _ _ _ _ hnext
              exact ⟨t :: (vs ++ r :: ws), by simp, by simpa using hws⟩
          · next ht =>
              obtain ⟨⟨args, ts₁⟩, hargs, hnext⟩ := bind_eq_ok h
              obtain ⟨_, rfl, vs, r, rfl, hvs, hr⟩ := arguments_reads hinner _ _ _ _ hargs
              obtain ⟨ws, rfl, hws⟩ := ih (.index he ht hvs hr) _ _ _ _ hnext
              exact ⟨t :: (vs ++ r :: ws), by simp, by simpa using hws⟩
          · cases h
            exact ⟨[], rfl, by simpa using he⟩

theorem postfixChain_reads : Reads (postfixChain inner) Expr.Spells := by
  intro stop ts e rest h
  obtain ⟨⟨e', ts₁⟩, he, hchain⟩ := bind_eq_ok h
  obtain ⟨us, rfl, hus⟩ := primary_reads hinner _ _ _ _ he
  obtain ⟨vs, rfl, hvs⟩ := postfixFrom_reads hinner _ hus _ _ _ _ hchain
  exact ⟨us ++ vs, by simp, hvs⟩

theorem unary_reads (hoperand : Reads inner.operand Expr.Spells) :
    Reads (unary inner) Expr.Spells := by
  intro stop ts e rest h
  cases ts with
  | nil => exact postfixChain_reads hinner _ _ _ _ h
  | cons t ts =>
      simp only [unary] at h
      split at h
      · next op hop =>
          obtain ⟨⟨operand, ts₁⟩, hts, hlast⟩ := bind_eq_ok h
          obtain ⟨us, rfl, hus⟩ := hoperand _ _ _ _ hts
          cases hlast
          exact ⟨t :: us, rfl, .unary hop hus⟩
      · exact postfixChain_reads hinner _ _ _ _ h

theorem conditional_reads (hoperand : Reads inner.operand Expr.Spells) :
    Reads (conditional inner) Expr.Spells := by
  intro stop ts e rest h
  obtain ⟨⟨c, ts₁⟩, hc, hnext⟩ := bind_eq_ok h
  obtain ⟨us, rfl, hus⟩ :=
    coalesceFrom_reads (operators_reads (unary_reads hinner hoperand)) _ _ _ _ _ hc
  simp only at hnext
  split at hnext
  · next hq' =>
      obtain ⟨⟨a, ts₂⟩, ha, hnext⟩ := bind_eq_ok hnext
      obtain ⟨⟨_, ts₃⟩, hcolon', hnext⟩ := bind_eq_ok hnext
      obtain ⟨⟨b, ts₄⟩, hb, hlast⟩ := bind_eq_ok hnext
      cases hlast
      obtain ⟨q, rfl, hq⟩ := after?_eq_some hq'
      obtain ⟨vs, rfl, hvs⟩ := hinner _ _ _ _ ha
      obtain ⟨colon, rfl, hcolon⟩ := require_eq_ok hcolon'
      obtain ⟨ws, rfl, hws⟩ := hinner _ _ _ _ hb
      exact ⟨us ++ q :: (vs ++ colon :: ws), by simp, .conditional hus hq hvs hcolon hws⟩
  · cases hnext
    exact ⟨us, rfl, hus⟩

end Levels

/-! ### Expressions -/

theorem nested_reads (levels : Nat) :
    Reads (nested levels).expression Expr.Spells ∧ Reads (nested levels).operand Expr.Spells := by
  induction levels with
  | zero => exact ⟨nofun, nofun⟩
  | succ levels ih => exact ⟨conditional_reads ih.1 ih.2, unary_reads ih.1 ih.2⟩

end Parser

/-- The tokens of an accepted text spell its expression: the parser drops, invents and reorders
none. -/
theorem Expr.ofTokens_spells {ts : List Token} {stop : Nat} {e : Expr}
    (h : Expr.ofTokens ts stop = .ok e) : e.Spells ts := by
  unfold Expr.ofTokens at h
  split at h
  · cases h
  · obtain ⟨⟨e', rest⟩, he, hlast⟩ := bind_eq_ok h
    obtain ⟨us, rfl, hus⟩ := (Parser.nested_reads _).1 _ _ _ _ he
    simp only at hlast
    split at hlast
    · next hrest =>
        cases hlast
        rw [List.isEmpty_iff.mp hrest, List.append_nil]
        exact hus
    · cases hlast

/-- `(a) mod b ?? np(c)`, where parentheses group once and belong to a form once. -/
theorem Expr.ofTokens_spells_coalesce :
    let ts : List Token :=
      [⟨.punctuator .openParen, "(", 0⟩, ⟨.identifier "a", "a", 1⟩,
        ⟨.punctuator .closeParen, ")", 2⟩, ⟨.keyword .mod, "mod", 4⟩, ⟨.identifier "b", "b", 8⟩,
        ⟨.punctuator .questions, "??", 10⟩, ⟨.keyword .np, "np", 13⟩,
        ⟨.punctuator .openParen, "(", 15⟩, ⟨.identifier "c", "c", 16⟩,
        ⟨.punctuator .closeParen, ")", 17⟩]
    let e : Expr := .binary .coalesce
      (.binary .modulo (.identifier ⟨"a", 1⟩) (.identifier ⟨"b", 8⟩) 4)
      (.nullPropagation (.identifier ⟨"c", 16⟩) 13) 10
    Expr.ofTokens ts 18 = .ok e ∧ e.Spells ts := by
  intro ts e
  have h : Expr.ofTokens ts 18 = .ok e := rfl
  exact ⟨h, Expr.ofTokens_spells h⟩

end Elementwise
