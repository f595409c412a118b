import Elementwise.Proofs.Syntax.Accepting

/-!
# Reading a rendering gives the expression back

What `Expr.render` writes is read as the same expression, up to the offsets, if it does not nest too
deep.  The induction is on the expression.  It carries `Parser.Reaches`: the parser of a rank takes
the rendering, and then stands where it stands after having read the expression, ready to extend it
by whatever comes next.  That is what the left operand of an operator and the object of a member
access are read with; everything else only needs `Parser.Accepts`, where nothing more comes.
-/

namespace Elementwise

namespace Parser

variable {k n : Nat} {ls : List Lexeme} {e : Expr}

/-! ### Constants and names -/

theorem readsBack_literal (l : Literal) : ReadsBack (.literal l) := by
  intro k _
  apply reaches_of_primary
  intro stop ts rest hts _
  obtain ⟨t, rfl, ht⟩ := List.map_eq_singleton_iff.mp hts
  refine ⟨.literal l, rfl, ?_⟩
  cases l with
  | boolean b => cases b <;> simp [primary, ht, Literal.lexeme]
  | _ => simp [primary, ht, Literal.lexeme]

theorem readsBack_null : ReadsBack .null := by
  intro k _
  apply reaches_of_primary
  intro stop ts rest hts _
  obtain ⟨t, rfl, ht⟩ := List.map_eq_singleton_iff.mp hts
  exact ⟨.null, rfl, by simp [primary, ht]⟩

theorem readsBack_it (offset : Nat) : ReadsBack (.it offset) := by
  intro k _
  apply reaches_of_primary
  intro stop ts rest hts hrest
  obtain ⟨t, rfl, ht⟩ := List.map_eq_singleton_iff.mp hts
  exact ⟨.it t.offset, rfl, by simp [primary, ht, hrest.stops.arrow]⟩

theorem ident?_of_lexeme {t : Token} {name : String} (h : t.lexeme = .identifier name) :
    t.ident? = some ⟨name, t.offset⟩ := by
  rw [Token.ident?, Token.name?, h, Option.map_some]

theorem readsBack_identifier (id : Ident) : ReadsBack (.identifier id) := by
  intro k _
  apply reaches_of_primary
  intro stop ts rest hts hrest
  obtain ⟨t, rfl, ht⟩ := List.map_eq_singleton_iff.mp hts
  exact ⟨.identifier ⟨id.name, t.offset⟩, rfl, primary_of_ident? (ident?_of_lexeme ht) hrest⟩

/-! ### Chains -/

/-- A dot, a call or an indexing leaves the chain before it to be extended. -/
theorem ends_chain {t : Token} {s : Punctuator} {ts : List Token} (ht : t.lexeme = .punctuator s)
    (hs : s = .dot ∨ s = .openParen ∨ s = .openBracket) : Ends (limit 9) (t :: ts) := by
  have hp := punctuator?_of_lexeme ht
  refine ends_cons (r := 9) ?_ (Nat.lt_succ_self 9) ?_
  · obtain rfl | rfl | rfl := hs <;> simp [Token.rank?, hp]
  · intro hq
    rw [hp] at hq
    cases hq
    simp at hs

/-- A chain that is written as `ls` grows by a part that starts with `s`. -/
theorem Reaches.chain {object : Expr} {s : Punctuator} {part : List Lexeme}
    (ho : Reaches k 9 ls object) (hs : s = .dot ∨ s = .openParen ∨ s = .openBracket)
    (hpart : ∀ (stop : Nat) (t : Token) (vs rest : List Token) (object' : Expr),
      t.lexeme = .punctuator s → vs.map Token.lexeme = part →
      object'.eraseOffsets = object.eraseOffsets →
      ∃ e', e'.eraseOffsets = e.eraseOffsets ∧
        ∀ fuel, postfixFrom (nested k) (fuel + 1) object' stop (t :: (vs ++ rest)) =
          postfixFrom (nested k) fuel e' stop rest) :
    Reaches k 9 (ls ++ .punctuator s :: part) e := by
  intro stop ts rest hts _
  obtain ⟨us, vs, rfl, hus, hvs⟩ := List.map_eq_append_iff.mp hts
  obtain ⟨t, vs, rfl, ht, hvs⟩ := List.map_eq_cons_iff.mp hvs
  obtain ⟨object', fuel, hobject, hfuel, hread⟩ :=
    ho stop us (t :: (vs ++ rest)) hus (ends_chain ht hs)
  obtain ⟨fuel, rfl⟩ := Nat.exists_eq_add_of_le' (Nat.le_trans (Nat.le_add_left 1 _) hfuel)
  obtain ⟨e', he, hextend⟩ := hpart stop t vs rest object' ht hvs hobject
  refine ⟨e', fuel, he, ?_, ?_⟩
  · simp only [List.length_cons, List.length_append] at hfuel
    omega
  · have hassoc : (us ++ t :: vs) ++ rest = us ++ t :: (vs ++ rest) := by simp
    rw [hassoc]
    exact hread.trans (hextend fuel)

theorem readsBack_member {object : Expr} (ho : ReadsBack object) (name : Ident) :
    ReadsBack (.member object name) := by
  intro k hk
  apply (ho.place (Nat.le_refl 9) hk).chain (.inl rfl)
  intro stop dot vs rest object' hdot hvs hobject
  obtain ⟨t, rfl, ht⟩ := List.map_eq_singleton_iff.mp hvs
  refine ⟨.member object' ⟨name.name, t.offset⟩, ?_, ?_⟩
  · simp [Expr.mapParts, hobject, Ident.eraseOffset]
  · intro fuel
    simp [postfixFrom, punctuator?_of_lexeme hdot, ident, ident?_of_lexeme ht, ok_bind]

theorem readsBack_call {callee : Expr} {args : List Expr} (hc : ReadsBack callee)
    (hargs : ∀ e ∈ args, ReadsBack e) (offset : Nat) : ReadsBack (.call callee args offset) := by
  intro k hk
  have hdepth : max (callee.depthAt 9) (Expr.depthAll args) ≤ k := hk
  refine (hc.place (Nat.le_refl 9) (Nat.le_trans (Nat.le_max_left _ _) hdepth)).chain
    (.inr (.inl rfl)) ?_
  intro stop l vs rest callee' hl hvs hcallee
  obtain ⟨us, r, rfl, hus, hr⟩ := map_eq_close hvs
  obtain ⟨args', hargs', hread⟩ := arguments_accepts "',' or ')'" stop rest
    rfl hargs (Nat.le_trans (Nat.le_max_right _ _) hdepth) hus hr
  refine ⟨.call callee' args' l.offset, ?_, ?_⟩
  · simp [Expr.mapParts, hcallee, hargs']
  · intro fuel
    simp [postfixFrom, punctuator?_of_lexeme hl, callArguments, hread, ok_bind]

theorem readsBack_index {object : Expr} {args : List Expr} (ho : ReadsBack object)
    (hargs : ∀ e ∈ args, ReadsBack e) (offset : Nat) : ReadsBack (.index object args offset) := by
  intro k hk
  have hdepth : max (object.depthAt 9) (Expr.depthAll args) ≤ k := hk
  refine (ho.place (Nat.le_refl 9) (Nat.le_trans (Nat.le_max_left _ _) hdepth)).chain
    (.inr (.inr rfl)) ?_
  intro stop l vs rest object' hl hvs hobject
  obtain ⟨us, r, rfl, hus, hr⟩ := map_eq_close hvs
  obtain ⟨args', hargs', hread⟩ := arguments_accepts "',' or ']'" stop rest
    rfl hargs (Nat.le_trans (Nat.le_max_right _ _) hdepth) hus hr
  refine ⟨.index object' args' l.offset, ?_, ?_⟩
  · simp [Expr.mapParts, hobject, hargs']
  · intro fuel
    simp [postfixFrom, punctuator?_of_lexeme hl, hread, ok_bind]

/-! ### Forms -/

theorem readsBack_nullableConversion (target : Ident) {args : List Expr}
    (hargs : ∀ e ∈ args, ReadsBack e) : ReadsBack (.nullableConversion target args) := by
  intro k hk
  apply reaches_of_primary
  intro stop ts rest hts _
  obtain ⟨t, ts, rfl, ht, hts⟩ := List.map_eq_cons_iff.mp hts
  obtain ⟨q, ts, rfl, hq, hts⟩ := List.map_eq_cons_iff.mp hts
  obtain ⟨l, us, r, rfl, hl, hus, hr⟩ := map_eq_enclose hts
  obtain ⟨args', hargs', hread⟩ := arguments_accepts "',' or ')'" stop rest
    rfl hargs hk hus hr
  refine ⟨.nullableConversion ⟨target.name, t.offset⟩ args', ?_, ?_⟩
  · simp [Expr.mapParts, hargs', Ident.eraseOffset]
  · have harrow : ∀ ws, after? .arrow (q :: ws) = none := by
      intro ws
      simp [after?, punctuator?_of_lexeme hq]
    simp [primary, ht, named, harrow, after?_of_lexeme hq, after?_of_lexeme hl, callArguments,
      hread, ok_bind]

theorem readsBack_nullPropagation {operand : Expr} (ho : ReadsBack operand) (offset : Nat) :
    ReadsBack (.nullPropagation operand offset) := by
  intro k hk
  apply reaches_of_primary
  intro stop ts rest hts _
  obtain ⟨t, ts, rfl, ht, hts⟩ := List.map_eq_cons_iff.mp hts
  obtain ⟨l, us, r, rfl, hl, hus, hr⟩ := map_eq_enclose hts
  have hall : ∀ e ∈ [operand], ReadsBack e := by simpa using ho
  have hone : Expr.depthAll [operand] ≤ k := by simpa [Expr.depthAll, Expr.depth] using hk
  obtain ⟨args', hargs', hread⟩ := arguments_accepts "',' or ')'" stop rest
    rfl hall hone (by simpa [Expr.renderAll, Lexeme.commas] using hus) hr
  obtain ⟨operand', rfl, hoperand⟩ := List.map_eq_singleton_iff.mp
    ((Expr.mapAll_eq_map _ _ args').symm.trans hargs')
  refine ⟨.nullPropagation operand' t.offset, ?_, ?_⟩
  · simp [Expr.mapParts, hoperand]
  · simp [primary, ht, fixedArguments, require_of_lexeme hl, callArguments, hread, ok_bind]

theorem readsBack_array {elements : List Expr} (helements : ∀ e ∈ elements, ReadsBack e)
    (offset : Nat) : ReadsBack (.array elements offset) := by
  intro k hk
  apply reaches_of_primary
  intro stop ts rest hts _
  obtain ⟨t, ts, rfl, ht, hts⟩ := List.map_eq_cons_iff.mp hts
  obtain ⟨l, ts, rfl, hl, hts⟩ := List.map_eq_cons_iff.mp hts
  obtain ⟨r, ts, rfl, hr, hts⟩ := List.map_eq_cons_iff.mp hts
  obtain ⟨ll, us, rr, rfl, hll, hus, hrr⟩ := map_eq_enclose hts
  obtain ⟨elements', herase, hread⟩ := arguments_accepts "',' or '\x7d'" stop
    rest rfl helements hk hus hrr
  refine ⟨.array elements' t.offset, ?_, ?_⟩
  · simp [Expr.mapParts, herase]
  · simp [primary, ht, newForm, after?_of_lexeme hl, require_of_lexeme hr, require_of_lexeme hll,
      hread, ok_bind]

theorem readsBack_record {members : List (Ident × Expr)} (hmembers : ∀ m ∈ members, ReadsBack m.2)
    (offset : Nat) : ReadsBack (.record members offset) := by
  intro k hk
  apply reaches_of_primary
  intro stop ts rest hts _
  obtain ⟨t, ts, rfl, ht, hts⟩ := List.map_eq_cons_iff.mp hts
  obtain ⟨l, us, r, rfl, hl, hus, hr⟩ := map_eq_enclose hts
  rw [Expr.renderMembers_eq_map] at hus
  have hmember : ∀ m ∈ members, Accepts (recordMember (nested k)) (Expr.mapMember Ident.eraseOffset fun _ => 0) 0
      (Expr.renderMember m) m := by
    intro m hm
    exact recordMember_accepts (hmembers m hm) (Nat.le_trans (depth_lt_depthMembers hm) hk)
  obtain ⟨members', herase, hread⟩ := listUntil_accepts "',' or ')'" stop rest rfl
    hmember (fun _ ts hclose => recordMember_of_isClosing stop ts hclose rfl) hus hr
  refine ⟨.record members' t.offset, ?_, ?_⟩
  · simp [Expr.mapParts, Expr.mapMembers_eq_map, herase]
  · have hbracket : ∀ ws, after? .openBracket (l :: ws) = none := by
      intro ws
      simp [after?, punctuator?_of_lexeme hl]
    simp [primary, ht, newForm, hbracket, after?_of_lexeme hl, hread, ok_bind]

/-! ### Operators -/

theorem unaryOperator?_punctuator {t : Token} {op : UnaryOperator}
    (ht : t.lexeme = .punctuator op.punctuator) : t.unaryOperator? = some op := by
  cases op <;> simp [Token.unaryOperator?, ht, UnaryOperator.punctuator]

theorem binaryOperator?_punctuator {t : Token} {op : BinaryOperator}
    (ht : t.lexeme = .punctuator op.punctuator) : t.binaryOperator? = some op := by
  cases op <;> simp [Token.binaryOperator?, ht, BinaryOperator.punctuator]

/-- A binary operator ends everything that binds tighter. -/
theorem ends_binary {t : Token} {op : BinaryOperator} {ts : List Token}
    (ht : t.lexeme = .punctuator op.punctuator) (hn : op.rank < n) : Ends n (t :: ts) := by
  refine ends_cons (Token.rank?_of_binaryOperator? (binaryOperator?_punctuator ht)) hn ?_
  rw [punctuator?_of_lexeme ht]
  cases op <;> simp [BinaryOperator.punctuator]

theorem readsBack_unary (op : UnaryOperator) {operand : Expr} (ho : ReadsBack operand)
    (offset : Nat) : ReadsBack (.unary op operand offset) := by
  intro k hk stop ts rest hts hrest
  obtain ⟨t, us, rfl, ht, hus⟩ := List.map_eq_cons_iff.mp hts
  have hdepth : operand.depthAt 8 + 1 ≤ k := hk
  obtain ⟨k, rfl⟩ := Nat.exists_eq_add_of_le' (Nat.le_trans (Nat.le_add_left 1 _) hdepth)
  have hplace : Reaches k 8 (operand.renderAt 8) operand :=
    ho.place (by decide) (Nat.le_of_succ_le_succ hdepth)
  obtain ⟨operand', fuel, hoperand, hfuel, hread⟩ := hplace stop us rest hus hrest
  have hinner : (nested (k + 1)).operand stop (us ++ rest) = .ok (operand', rest) := hread
  refine ⟨.unary op operand' t.offset, fuel, ?_, hfuel, ?_⟩
  · simp [Expr.mapParts, hoperand]
  · show unary (nested (k + 1)) stop (t :: (us ++ rest)) =
      .ok (.unary op operand' t.offset, rest)
    simp only [unary, unaryOperator?_punctuator ht, hinner, ok_bind]

theorem rank_le_seven (level : Precedence) : level.rank ≤ 7 := by
  cases level <;> decide

theorem limit_rank (level : Precedence) : limit level.rank = level.rank + 1 := by
  cases level <;> rfl

/-- Operators of one level are read from left to right. -/
theorem reaches_binary {op : BinaryOperator} {level : Precedence} {left right : Expr}
    {us vs : List Lexeme} (hop : op.precedence? = some level) (hl : Reaches k level.rank us left)
    (hr : Reaches k (level.rank + 1) vs right) (offset : Nat) :
    Reaches k level.rank (us ++ .punctuator op.punctuator :: vs)
      (.binary op left right offset) := by
  intro stop ts rest hts hrest
  have hrank : op.rank = level.rank := by rw [BinaryOperator.rank, hop]
  rw [limit_rank] at hrest
  obtain ⟨us, vs, rfl, hus, hvs⟩ := List.map_eq_append_iff.mp hts
  obtain ⟨t, vs, rfl, ht, hvs⟩ := List.map_eq_cons_iff.mp hvs
  have hends : Ends (limit level.rank) (t :: (vs ++ rest)) := by
    rw [limit_rank]
    exact ends_binary ht (by omega)
  obtain ⟨left', fuel, hleft, hfuel, hread⟩ := hl stop us (t :: (vs ++ rest)) hus hends
  obtain ⟨fuel, rfl⟩ := Nat.exists_eq_add_of_le' (Nat.le_trans (Nat.le_add_left 1 _) hfuel)
  obtain ⟨right', hright, hreadr⟩ := hr.accepts stop vs rest hvs hrest
  refine ⟨.binary op left' right' t.offset, fuel, ?_, ?_, ?_⟩
  · simp [Expr.mapParts, hleft, hright]
  · simp only [List.length_cons, List.length_append] at hfuel
    omega
  · have hassoc : (us ++ t :: vs) ++ rest = us ++ t :: (vs ++ rest) := by simp
    rw [hassoc, hread, extend_rank, extend_rank]
    simp only [chainFrom, binaryOperator?_punctuator ht, hop, hreadr, ok_bind]
    rfl

/-- `??` is read from right to left. -/
theorem reaches_coalesce {left right : Expr} {us vs : List Lexeme} (hl : Reaches k 2 us left)
    (hr : Reaches k 1 vs right) (offset : Nat) :
    Reaches k 1 (us ++ .punctuator .questions :: vs) (.binary .coalesce left right offset) := by
  intro stop ts rest hts hrest
  have hend : Ends 1 rest := hrest
  obtain ⟨us, vs, rfl, hus, hvs⟩ := List.map_eq_append_iff.mp hts
  obtain ⟨t, vs, rfl, ht, hvs⟩ := List.map_eq_cons_iff.mp hvs
  obtain ⟨left', hleft, hread⟩ := hl.accepts stop us (t :: (vs ++ rest)) hus
    (ends_binary (show t.lexeme = .punctuator BinaryOperator.coalesce.punctuator from ht)
      (by decide))
  obtain ⟨right', hright, hreadr⟩ := hr.accepts stop vs rest hvs hend
  refine ⟨.binary .coalesce left' right' t.offset, rest.length, ?_, Nat.le_refl _, ?_⟩
  · simp [Expr.mapParts, hleft, hright]
  · have hassoc : (us ++ t :: vs) ++ rest = us ++ t :: (vs ++ rest) := by simp
    rw [hassoc]
    show coalesce (atRank (nested k) 2) stop (us ++ t :: (vs ++ rest)) =
      .ok (.binary .coalesce left' right' t.offset, rest)
    obtain ⟨fuel, hfuel⟩ : ∃ fuel, (us ++ t :: (vs ++ rest)).length = fuel + 1 :=
      ⟨us.length + (vs ++ rest).length, by simp [Nat.add_assoc]⟩
    have hle : (vs ++ rest).length ≤ fuel := by
      simp only [List.length_append, List.length_cons] at hfuel ⊢
      omega
    have hrest' : coalesceFrom (atRank (nested k) 2) fuel stop (vs ++ rest) = .ok (right', rest) :=
      coalesceFrom_mono hle hreadr hend.stops.questions
    rw [coalesce, hfuel]
    simp only [coalesceFrom, hread, ok_bind, after?_of_lexeme ht, hrest', position]

theorem readsBack_binary (op : BinaryOperator) {left right : Expr} (hl : ReadsBack left)
    (hr : ReadsBack right) (offset : Nat) : ReadsBack (.binary op left right offset) := by
  intro k hk
  have hdepth : max (left.depthAt op.leftRank) (right.depthAt op.rightRank) ≤ k := hk
  have hleft := Nat.le_trans (Nat.le_max_left _ _) hdepth
  have hright := Nat.le_trans (Nat.le_max_right _ _) hdepth
  show Reaches k op.rank (left.renderAt op.leftRank ++
    .punctuator op.punctuator :: right.renderAt op.rightRank) _
  cases hop : op.precedence? with
  | some level =>
      have hseven := rank_le_seven level
      simp only [BinaryOperator.rank, BinaryOperator.leftRank, BinaryOperator.rightRank, hop]
        at hleft hright ⊢
      exact reaches_binary hop (hl.place (by omega) hleft) (hr.place (by omega) hright) offset
  | none =>
      obtain rfl : op = .coalesce := by
        cases op <;> simp [BinaryOperator.precedence?] at hop ⊢
      exact reaches_coalesce (hl.place (by decide) hleft) (hr.place (by decide) hright) offset

/-! ### Conditionals and lambdas -/

theorem readsBack_conditional {c a b : Expr} (hc : ReadsBack c) (ha : ReadsBack a)
    (hb : ReadsBack b) (offset : Nat) : ReadsBack (.conditional c a b offset) := by
  intro k hk stop ts rest hts hrest
  have hend : Ends 0 rest := hrest
  have hdepth : max c.depth (max a.depth b.depth) + 1 ≤ k := hk
  obtain ⟨k, rfl⟩ := Nat.exists_eq_add_of_le' (Nat.le_trans (Nat.le_add_left 1 _) hdepth)
  obtain ⟨us, ts, rfl, hus, hts⟩ := List.map_eq_append_iff.mp hts
  obtain ⟨q, ts, rfl, hq, hts⟩ := List.map_eq_cons_iff.mp hts
  obtain ⟨vs, ts, rfl, hvs, hts⟩ := List.map_eq_append_iff.mp hts
  obtain ⟨colon, ws, rfl, hcolon, hws⟩ := List.map_eq_cons_iff.mp hts
  have hquestion : Stops 1 (q :: (vs ++ colon :: (ws ++ rest))) := by
    refine stops_cons (r := 0) ?_ (by decide)
    simp [Token.rank?, punctuator?_of_lexeme hq]
  have hc0 : Reaches k 0 c.render c := (hc k (by omega)).of_le (Nat.zero_le _) (rank_le c)
  obtain ⟨c', hc', hreadc⟩ := primary_of_enclose hc0 stop hus (hquestion.mono (by decide))
  have hcondition := atRank_of_primary (by decide) hreadc hquestion
  obtain ⟨a', ha', hreada⟩ := ha.expression (k := k + 1) (by omega) stop vs
    (colon :: (ws ++ rest)) hvs (ends_closing (punctuator?_of_lexeme hcolon) (.inr (.inr rfl)))
  obtain ⟨b', hb', hreadb⟩ := hb.expression (k := k + 1) (by omega) stop ws rest hws hend
  refine ⟨.conditional c' a' b' q.offset, rest.length, ?_, Nat.le_refl _, ?_⟩
  · simp [Expr.mapParts, hc', ha', hb']
  · have hassoc : (us ++ q :: (vs ++ colon :: ws)) ++ rest =
        us ++ q :: (vs ++ colon :: (ws ++ rest)) := by simp
    rw [hassoc]
    show conditional (nested (k + 1)) stop (us ++ q :: (vs ++ colon :: (ws ++ rest))) =
      .ok (.conditional c' a' b' q.offset, rest)
    have hcoalesce : coalesce (operators (unary (nested (k + 1)))) stop
        (us ++ q :: (vs ++ colon :: (ws ++ rest))) =
          .ok (c', q :: (vs ++ colon :: (ws ++ rest))) := hcondition
    simp only [conditional, hcoalesce, ok_bind, after?_of_lexeme hq, hreada,
      require_of_lexeme hcolon, hreadb, position]

theorem readsBack_lambda (param : Ident) {body : Expr} (hb : ReadsBack body) :
    ReadsBack (.lambda param body) := by
  intro k hk stop ts rest hts hrest
  have hend : Ends 0 rest := hrest
  obtain ⟨t, ts, rfl, ht, hts⟩ := List.map_eq_cons_iff.mp hts
  obtain ⟨arrow, us, rfl, harrow, hus⟩ := List.map_eq_cons_iff.mp hts
  obtain ⟨body', hbody, hread⟩ := hb.expression hk stop us rest hus hend
  have hprimary : primary (nested k) stop (t :: arrow :: (us ++ rest)) =
      .ok (.lambda ⟨param.name, t.offset⟩ body', rest) := by
    simp [primary, ht, named, after?_of_lexeme harrow, lambdaBody, require_of_lexeme harrow, hread,
      ok_bind]
  refine ⟨.lambda ⟨param.name, t.offset⟩ body', rest.length, ?_, Nat.le_refl _, ?_⟩
  · simp [Expr.mapParts, hbody, Ident.eraseOffset]
  · exact atRank_of_primary (Nat.zero_le 9) hprimary hend.stops

/-! ### Expressions -/

mutual

theorem readsBack : (e : Expr) → ReadsBack e
  | .literal l => readsBack_literal l
  | .null => readsBack_null
  | .it offset => readsBack_it offset
  | .identifier id => readsBack_identifier id
  | .member object name => readsBack_member (readsBack object) name
  | .index object args offset => readsBack_index (readsBack object) (readsBack_all args) offset
  | .call callee args offset => readsBack_call (readsBack callee) (readsBack_all args) offset
  | .nullableConversion target args => readsBack_nullableConversion target (readsBack_all args)
  | .unary op operand offset => readsBack_unary op (readsBack operand) offset
  | .binary op left right offset => readsBack_binary op (readsBack left) (readsBack right) offset
  | .conditional c a b offset =>
    readsBack_conditional (readsBack c) (readsBack a) (readsBack b) offset
  | .nullPropagation operand offset => readsBack_nullPropagation (readsBack operand) offset
  | .array elements offset => readsBack_array (readsBack_all elements) offset
  | .record members offset => readsBack_record (readsBack_members members) offset
  | .lambda param body => readsBack_lambda param (readsBack body)

theorem readsBack_all : (es : List Expr) → ∀ e ∈ es, ReadsBack e
  | [] => nofun
  | e :: es => by
    intro e' he'
    cases he' with
    | head => exact readsBack e
    | tail _ he' => exact readsBack_all es e' he'

theorem readsBack_members : (ms : List (Ident × Expr)) → ∀ m ∈ ms, ReadsBack m.2
  | [] => nofun
  | (_, e) :: ms => by
    intro m hm
    cases hm with
    | head => exact readsBack e
    | tail _ hm => exact readsBack_members ms m hm

end

end Parser

/-- Tokens that are written as the rendering of an expression are read as that expression, up to
offsets, unless they nest too deep. -/
theorem Expr.ofTokens_render {e : Expr} {ts : List Token} {stop : Nat}
    (hts : ts.map Token.lexeme = e.render) (he : e.nesting ≤ Parser.maxNesting) :
    ∃ e', Expr.ofTokens ts stop = .ok e' ∧ e'.eraseOffsets = e.eraseOffsets := by
  obtain ⟨e', herase, hread⟩ :=
    (Parser.readsBack e).expression he stop ts [] hts (Parser.ends_nil 0)
  refine ⟨e', ?_, herase⟩
  have hne : ts.isEmpty = false := by
    cases ts with
    | nil =>
        rw [List.append_nil] at hread
        cases hread
    | cons t ts => rfl
  rw [List.append_nil] at hread
  simp only [Expr.ofTokens, hne, hread, ok_bind]
  rfl

/-- `(x) ? (a + c) * -b : y => y ?? null`. -/
theorem Expr.ofTokens_render_conditional :
    let e : Expr := .conditional (.identifier ⟨"x", 0⟩)
      (.binary .multiply
        (.binary .add (.identifier ⟨"a", 0⟩) (.identifier ⟨"c", 0⟩) 0)
        (.unary .negate (.identifier ⟨"b", 0⟩) 0) 0)
      (.lambda ⟨"y", 0⟩ (.binary .coalesce (.identifier ⟨"y", 0⟩) .null 0)) 0
    let ts : List Token := [⟨.punctuator .openParen, "(", 0⟩, ⟨.identifier "x", "x", 1⟩,
      ⟨.punctuator .closeParen, ")", 2⟩, ⟨.punctuator .question, "?", 4⟩,
      ⟨.punctuator .openParen, "(", 6⟩, ⟨.identifier "a", "a", 7⟩, ⟨.punctuator .plus, "+", 9⟩,
      ⟨.identifier "c", "c", 11⟩, ⟨.punctuator .closeParen, ")", 12⟩, ⟨.punctuator .star, "*", 14⟩,
      ⟨.punctuator .minus, "-", 16⟩, ⟨.identifier "b", "b", 17⟩, ⟨.punctuator .colon, ":", 19⟩,
      ⟨.identifier "y", "y", 21⟩, ⟨.punctuator .arrow, "=>", 23⟩, ⟨.identifier "y", "y", 26⟩,
      ⟨.punctuator .questions, "??", 28⟩, ⟨.keyword .null, "null", 31⟩]
    ts.map Token.lexeme = e.render ∧ e.nesting = 3 ∧
      ∃ e', Expr.ofTokens ts 35 = .ok e' ∧ e'.eraseOffsets = e.eraseOffsets := by
  intro e ts
  have hts : ts.map Token.lexeme = e.render := rfl
  exact ⟨hts, rfl, Expr.ofTokens_render hts (by decide)⟩

end Elementwise
