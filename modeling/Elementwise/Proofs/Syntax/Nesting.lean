import Elementwise.Proofs.Outcome
import Elementwise.Proofs.Syntax.Accepting

/-!
# What the limit on nesting bounds

From an expression a path goes down to one of its parts.  The parts that the parser reads in a loop,
which are left operands, receivers and callees, are no further down than the expression itself, and
neither is the right operand of `??`; `Expr.Path` counts the steps to such right operands by
themselves and leaves the steps to the others out of its counts.  `Expr.Within limit e`: no path
through `e` has more than `limit` steps of any other kind.

Parsers of fewer levels do what those of more levels do, unless they find the text nested too deep.
`Limits P o o'` says so of the outcomes of two such parsers, and that what has been read has the
property `P`.  Every rule of the grammar keeps it for the bound on the paths of an expression: a
level adds one step for each kind of operator that is read in a loop, one for prefix operators,
arguments and other parts, and one for the branches of a conditional.  Right operands of `??` do not
nest, so the steps to them are not bounded.
-/

namespace Elementwise

/-! ### Paths through an expression -/

namespace Expr

/-- The part that the parser has read before it comes to the expression: a left operand, or what is
accessed, called or indexed. -/
def head? : Expr → Option Expr
  | member object _ => some object
  | index object _ _ => some object
  | call callee _ _ => some callee
  | binary _ left _ _ => some left
  | _ => none

/-- The right operand of `??`. -/
def tail? : Expr → Option Expr
  | binary .coalesce _ right _ => some right
  | _ => none

/-- All other parts. -/
def branches : Expr → List Expr
  | literal _ | null | it _ | identifier _ | member _ _ => []
  | index _ args _ | call _ args _ | nullableConversion _ args => args
  | unary _ operand _ | nullPropagation operand _ => [operand]
  | binary .coalesce _ _ _ => []
  | binary _ _ right _ => [right]
  | conditional condition whenTrue whenFalse _ => [condition, whenTrue, whenFalse]
  | array elements _ => elements
  | record members _ => members.map Prod.snd
  | lambda _ body => [body]

/-- A path from an expression down to a part of it, with the number of steps to branches and the
number of steps to right operands of `??`. -/
inductive Path : Expr → Nat → Nat → Expr → Prop where
  | root {e : Expr} : Path e 0 0 e
  | head {e c part : Expr} {n m : Nat} (hc : e.head? = some c) (h : Path c n m part) :
    Path e n m part
  | branch {e c part : Expr} {n m : Nat} (hc : c ∈ e.branches) (h : Path c n m part) :
    Path e (n + 1) m part
  | tail {e c part : Expr} {n m : Nat} (hc : e.tail? = some c) (h : Path c n m part) :
    Path e n (m + 1) part

/-- Every path has so many steps to branches at most. -/
def Within (limit : Nat) (e : Expr) : Prop :=
  ∀ n m part, e.Path n m part → n ≤ limit

namespace Within

variable {e left right : Expr} {args : List Expr} {limit offset : Nat}

theorem mono {limit' : Nat} (h : e.Within limit) (hle : limit ≤ limit') : e.Within limit' :=
  fun n m part hpath => Nat.le_trans (h n m part hpath) hle

/-- An expression without parts. -/
theorem leaf (hbranches : e.branches = []) (hhead : e.head? = none) (htail : e.tail? = none) :
    e.Within limit := by
  intro n m part h
  cases h with
  | root => exact Nat.zero_le _
  | head hc =>
      rw [hhead] at hc
      cases hc
  | branch hc =>
      rw [hbranches] at hc
      cases hc
  | tail hc =>
      rw [htail] at hc
      cases hc

/-- An expression is one step above its branches, and on a level with its other parts. -/
theorem step (hbranches : ∀ c ∈ e.branches, c.Within limit)
    (hhead : ∀ c, e.head? = some c → c.Within (limit + 1))
    (htail : ∀ c, e.tail? = some c → c.Within (limit + 1)) : e.Within (limit + 1) := by
  intro n m part h
  cases h with
  | root => exact Nat.zero_le _
  | head hc h => exact hhead _ hc _ _ _ h
  | branch hc h => exact Nat.succ_le_succ (hbranches _ hc _ _ _ h)
  | tail hc h => exact htail _ hc _ _ _ h

/-- An expression all of whose parts are branches. -/
theorem branching (hbranches : ∀ c ∈ e.branches, c.Within limit) (hhead : e.head? = none)
    (htail : e.tail? = none) : e.Within (limit + 1) :=
  step hbranches (fun c hc => by rw [hhead] at hc; cases hc)
    fun c hc => by rw [htail] at hc; cases hc

theorem member (h : e.Within (limit + 1)) (name : Ident) : (e.member name).Within (limit + 1) :=
  step nofun (fun _ hc => Option.some.inj hc ▸ h) nofun

theorem call (h : e.Within (limit + 1)) (hargs : ∀ c ∈ args, c.Within limit) :
    (e.call args offset).Within (limit + 1) :=
  step hargs (fun _ hc => Option.some.inj hc ▸ h) nofun

theorem index (h : e.Within (limit + 1)) (hargs : ∀ c ∈ args, c.Within limit) :
    (e.index args offset).Within (limit + 1) :=
  step hargs (fun _ hc => Option.some.inj hc ▸ h) nofun

theorem binary {op : BinaryOperator} (hl : left.Within (limit + 1)) (hr : right.Within limit)
    (hop : op ≠ .coalesce) : (Expr.binary op left right offset).Within (limit + 1) := by
  refine step (fun c hc => ?_) (fun _ hc => Option.some.inj hc ▸ hl) fun c hc => ?_
  · cases op with
    | coalesce => exact absurd rfl hop
    | _ => exact List.mem_singleton.1 hc ▸ hr
  · cases op with
    | coalesce => exact absurd rfl hop
    | _ => cases hc

theorem coalesce (hl : left.Within (limit + 1)) (hr : right.Within (limit + 1)) :
    (Expr.binary .coalesce left right offset).Within (limit + 1) :=
  step nofun (fun _ hc => Option.some.inj hc ▸ hl) fun _ hc => Option.some.inj hc ▸ hr

end Within

end Expr

namespace Parser

/-! ### Outcomes under a limit -/

/-- The first outcome is that the text nests too deep, or it is the second one; and what results has
the property. -/
inductive Limits {β : Type} (P : β → Prop) : Except SyntaxError β → Except SyntaxError β → Prop where
  | tooDeep {offset : Nat} {o : Except SyntaxError β} :
    Limits P (.error (.tooDeep maxNesting offset)) o
  | same {o : Except SyntaxError β} (h : Ensures P o) : Limits P o o

namespace Limits

variable {β γ : Type} {P : β → Prop} {Q : γ → Prop}

theorem ok {b : β} (h : P b) : Limits P (.ok b) (.ok b) :=
  .same (.ok h)

theorem error {x : SyntaxError} : Limits P (.error x) (.error x) :=
  .same .error

theorem bind {o o' : Except SyntaxError β} {f f' : β → Except SyntaxError γ} (ho : Limits P o o')
    (hf : ∀ b, P b → Limits Q (f b) (f' b)) : Limits Q (o >>= f) (o' >>= f') := by
  cases ho with
  | tooDeep => exact .tooDeep
  | same h =>
      cases h with
      | ok h => exact hf _ h
      | error => exact .error

theorem bind_same {o : Except SyntaxError β} {f f' : β → Except SyntaxError γ}
    (hf : ∀ b, Limits Q (f b) (f' b)) : Limits Q (o >>= f) (o >>= f') :=
  (Limits.same (.trivial o)).bind fun b _ => hf b

theorem mono {P' : β → Prop} {o o' : Except SyntaxError β} (h : Limits P o o')
    (hp : ∀ b, P b → P' b) : Limits P' o o' := by
  cases h with
  | tooDeep => exact .tooDeep
  | same h => exact .same (h.mono hp)

end Limits

/-- A parser under a limit against one with more levels. -/
def Limited {α : Type} (P : α → Prop) (p p' : Parser α) : Prop :=
  ∀ stop ts, Limits (fun r => P r.1) (p stop ts) (p' stop ts)

variable {α : Type} {P : α → Prop} {p p' : Parser α}

theorem Limited.mono {P' : α → Prop} (h : Limited P p p') (hp : ∀ a, P a → P' a) :
    Limited P' p p' :=
  fun stop ts => (h stop ts).mono fun r => hp r.1

/-! ### Lists -/

theorem itemsUntil_limited {close : Punctuator} {expected : String} (hp : Limited P p p')
    (fuel : Nat) : Limited (fun xs => ∀ x ∈ xs, P x) (itemsUntil close expected p fuel)
      (itemsUntil close expected p' fuel) := by
  induction fuel with
  | zero => exact fun _ _ => .error
  | succ fuel ih =>
      intro stop ts
      refine (hp stop ts).bind ?_
      rintro ⟨x, rest⟩ hx
      dsimp only
      cases after? .comma rest with
      | some rest₁ =>
          refine (ih stop rest₁).bind ?_
          rintro ⟨xs, rest₂⟩ hxs
          exact .ok (List.forall_mem_cons.2 ⟨hx, hxs⟩)
      | none =>
          cases after? close rest with
          | some rest₁ => exact .ok (List.forall_mem_singleton.2 hx)
          | none => exact .error

theorem listUntil_limited {close : Punctuator} {expected : String} (hp : Limited P p p') :
    Limited (fun xs => ∀ x ∈ xs, P x) (listUntil close expected p) (listUntil close expected p') := by
  intro stop ts
  unfold listUntil
  cases after? close ts with
  | some rest => exact .ok nofun
  | none => exact itemsUntil_limited hp _ stop ts

/-! ### Operators -/

section Operators

open Elementwise.Expr (Within)

variable {operand operand' : Parser Expr} {n : Nat}

theorem chainFrom_limited {level : Precedence} (hp : Limited (Within n) operand operand')
    (fuel : Nat) {left : Expr} (hleft : left.Within (n + 1)) :
    Limited (Within (n + 1)) (chainFrom level operand fuel left)
      (chainFrom level operand' fuel left) := by
  induction fuel generalizing left with
  | zero => exact fun _ _ => .ok hleft
  | succ fuel ih =>
      intro stop ts
      cases ts with
      | nil => exact .ok hleft
      | cons t ts =>
          unfold chainFrom
          cases t.binaryOperator? with
          | none => exact .ok hleft
          | some op =>
              by_cases hop : op.precedence? = some level
              · simp only [if_pos hop]
                refine (hp stop ts).bind ?_
                rintro ⟨right, rest⟩ hright
                refine ih (hleft.binary hright ?_) stop rest
                rintro rfl
                cases hop
              · simp only [if_neg hop]
                exact .ok hleft

/-- Each level of operators adds one step, down to the right operand. -/
theorem chain_limited {level : Precedence} (hp : Limited (Within n) operand operand') :
    Limited (Within (n + 1)) (chain level operand) (chain level operand') := by
  intro stop ts
  refine (hp stop ts).bind ?_
  rintro ⟨left, rest⟩ hleft
  exact chainFrom_limited hp _ (hleft.mono (Nat.le_succ n)) stop rest

theorem operators_limited (hp : Limited (Within n) operand operand') :
    Limited (Within (n + 6)) (operators operand) (operators operand') :=
  chain_limited <| chain_limited <| chain_limited <| chain_limited <| chain_limited <|
    chain_limited hp

theorem coalesceFrom_limited (hp : Limited (Within (n + 1)) operand operand') (fuel : Nat) :
    Limited (Within (n + 1)) (coalesceFrom operand fuel) (coalesceFrom operand' fuel) := by
  induction fuel with
  | zero => exact hp
  | succ fuel ih =>
      intro stop ts
      refine (hp stop ts).bind ?_
      rintro ⟨left, rest⟩ hleft
      dsimp only
      cases after? .questions rest with
      | none => exact .ok hleft
      | some rest₁ =>
          refine (ih stop rest₁).bind ?_
          rintro ⟨right, rest₂⟩ hright
          exact .ok (hleft.coalesce hright)

theorem coalesce_limited (hp : Limited (Within (n + 1)) operand operand') :
    Limited (Within (n + 1)) (coalesce operand) (coalesce operand') :=
  fun stop ts => coalesceFrom_limited hp ts.length stop ts

end Operators

/-! ### The levels of one depth -/

section Levels

open Elementwise.Expr (Within)

variable {inner inner' : Nested} {n : Nat}
  (hinner : Limited (Within n) inner.expression inner'.expression)
include hinner

theorem arguments_limited {close : Punctuator} {expected : String} :
    Limited (fun args => ∀ e ∈ args, e.Within n) (arguments inner close expected)
      (arguments inner' close expected) :=
  listUntil_limited hinner

theorem fixedArguments_limited {form : String} {count offset : Nat} :
    Limited (fun args => ∀ e ∈ args, e.Within n) (fixedArguments inner form count offset)
      (fixedArguments inner' form count offset) := by
  intro stop ts
  refine .bind_same ?_
  rintro ⟨_, rest⟩
  refine (arguments_limited hinner stop rest).bind ?_
  rintro ⟨args, rest₁⟩ hargs
  dsimp only
  split
  · exact .ok hargs
  · exact .error

theorem lambdaBody_limited (param : Ident) :
    Limited (Within (n + 1)) (lambdaBody inner param) (lambdaBody inner' param) := by
  intro stop ts
  refine .bind_same ?_
  rintro ⟨_, rest⟩
  refine (hinner stop rest).bind ?_
  rintro ⟨body, rest₁⟩ hbody
  exact .ok (.branching (List.forall_mem_singleton.2 hbody) rfl rfl)

theorem recordMember_limited :
    Limited (fun m => m.2.Within n) (recordMember inner) (recordMember inner') := by
  intro stop ts
  refine (hinner stop ts).bind ?_
  rintro ⟨value, rest⟩ hvalue
  dsimp only
  cases afterKeyword? .as rest with
  | none => exact .error
  | some rest₁ =>
      refine .bind_same ?_
      rintro ⟨name, rest₂⟩
      exact .ok hvalue

theorem newForm_limited (offset : Nat) :
    Limited (Within (n + 1)) (newForm inner offset) (newForm inner' offset) := by
  intro stop ts
  unfold newForm
  cases after? .openBracket ts with
  | some rest =>
      refine .bind_same ?_
      rintro ⟨_, rest₁⟩
      refine .bind_same ?_
      rintro ⟨_, rest₂⟩
      refine (arguments_limited hinner stop rest₂).bind ?_
      rintro ⟨elements, rest₃⟩ helements
      exact .ok (.branching helements rfl rfl)
  | none =>
      cases after? .openParen ts with
      | some rest =>
          refine (listUntil_limited (recordMember_limited hinner) stop rest).bind ?_
          rintro ⟨members, rest₁⟩ hmembers
          exact .ok (.branching (List.forall_mem_map.2 hmembers) rfl rfl)
      | none => exact .error

theorem named_limited (id : Ident) :
    Limited (Within (n + 1)) (named inner id) (named inner' id) := by
  intro stop ts
  unfold named
  split
  · exact lambdaBody_limited hinner id stop ts
  · cases (after? .question ts).bind (after? .openParen) with
    | none => exact .ok (.leaf rfl rfl rfl)
    | some rest =>
        refine (arguments_limited hinner stop rest).bind ?_
        rintro ⟨args, rest₁⟩ hargs
        exact .ok (.branching hargs rfl rfl)

theorem parenthesized_limited :
    Limited (Within (n + 1)) (parenthesized inner) (parenthesized inner') := by
  intro stop ts
  unfold parenthesized
  cases parameter? ts with
  | some found => exact lambdaBody_limited hinner found.1 stop found.2
  | none =>
      refine (hinner stop ts).bind ?_
      rintro ⟨e, rest⟩ he
      refine .bind_same ?_
      rintro ⟨_, rest₁⟩
      exact .ok (he.mono (Nat.le_succ n))

theorem primary_limited : Limited (Within (n + 1)) (primary inner) (primary inner') := by
  intro stop ts
  cases ts with
  | nil => exact .error
  | cons t ts =>
      obtain ⟨lexeme, spelling, offset⟩ := t
      cases lexeme with
      | number | string | char => exact .ok (.leaf rfl rfl rfl)
      | identifier name => exact named_limited hinner ⟨name, offset⟩ stop ts
      | punctuator s =>
          cases s with
          | openParen => exact parenthesized_limited hinner stop ts
          | _ => exact .error
      | keyword word =>
          cases word with
          | null | «true» | «false» => exact .ok (.leaf rfl rfl rfl)
          | new => exact newForm_limited hinner offset stop ts
          | it =>
              simp only [primary]
              split
              · exact lambdaBody_limited hinner ⟨spelling, offset⟩ stop ts
              · exact .ok (.leaf rfl rfl rfl)
          | np =>
              refine (fixedArguments_limited hinner stop ts).bind ?_
              rintro ⟨_ | ⟨e, _ | _⟩, rest⟩ hargs
              · exact .error
              · exact .ok (.branching hargs rfl rfl)
              · exact .error
          | iif =>
              refine (fixedArguments_limited hinner stop ts).bind ?_
              rintro ⟨_ | ⟨c, _ | ⟨a, _ | ⟨b, _ | _⟩⟩⟩, rest⟩ hargs
              · exact .error
              · exact .error
              · exact .error
              · exact .ok (.branching hargs rfl rfl)
              · exact .error
          | _ => exact .error

theorem postfixFrom_limited (fuel : Nat) {e : Expr} (he : e.Within (n + 1)) :
    Limited (Within (n + 1)) (postfixFrom inner fuel e) (postfixFrom inner' fuel e) := by
  induction fuel generalizing e with
  | zero => exact fun _ _ => .ok he
  | succ fuel ih =>
      intro stop ts
      cases ts with
      | nil => exact .ok he
      | cons t ts =>
          unfold postfixFrom
          split
          · refine .bind_same ?_
            rintro ⟨name, rest⟩
            exact ih (he.member name) stop rest
          · refine (arguments_limited hinner stop ts).bind ?_
            rintro ⟨args, rest⟩ hargs
            exact ih (he.call hargs) stop rest
          · refine (arguments_limited hinner stop ts).bind ?_
            rintro ⟨args, rest⟩ hargs
            exact ih (he.index hargs) stop rest
          · exact .ok he

theorem postfixChain_limited :
    Limited (Within (n + 1)) (postfixChain inner) (postfixChain inner') := by
  intro stop ts
  refine (primary_limited hinner stop ts).bind ?_
  rintro ⟨e, rest⟩ he
  exact postfixFrom_limited hinner _ he stop rest

variable (hoperand : Limited (Within n) inner.operand inner'.operand)
include hoperand

theorem unary_limited : Limited (Within (n + 1)) (unary inner) (unary inner') := by
  intro stop ts
  cases ts with
  | nil => exact postfixChain_limited hinner stop []
  | cons t ts =>
      simp only [unary]
      cases t.unaryOperator? with
      | none => exact postfixChain_limited hinner stop (t :: ts)
      | some op =>
          refine (hoperand stop ts).bind ?_
          rintro ⟨operand, rest⟩ hoperand
          exact .ok (.branching (List.forall_mem_singleton.2 hoperand) rfl rfl)

theorem conditional_limited : Limited (Within (n + 8)) (conditional inner) (conditional inner') := by
  intro stop ts
  refine (coalesce_limited (operators_limited (unary_limited hinner hoperand)) stop ts).bind ?_
  rintro ⟨c, rest⟩ hc
  dsimp only
  cases after? .question rest with
  | none => exact .ok (hc.mono (Nat.le_succ _))
  | some rest₁ =>
      refine (hinner stop rest₁).bind ?_
      rintro ⟨a, rest₂⟩ ha
      refine .bind_same ?_
      rintro ⟨_, rest₃⟩
      refine (hinner stop rest₃).bind ?_
      rintro ⟨b, rest₄⟩ hb
      have hle : n ≤ n + 7 := Nat.le_add_right n 7
      refine .ok (.branching ?_ rfl rfl)
      exact List.forall_mem_cons.2
        ⟨hc, List.forall_mem_cons.2 ⟨ha.mono hle, List.forall_mem_singleton.2 (hb.mono hle)⟩⟩

end Levels

/-! ### Expressions -/

/-- Eight steps for each level. -/
theorem nested_limited {levels levels' : Nat} (h : levels ≤ levels') :
    Limited (Expr.Within (8 * levels)) (nested levels).expression (nested levels').expression ∧
      Limited (Expr.Within (8 * levels)) (nested levels).operand (nested levels').operand := by
  induction levels generalizing levels' with
  | zero => exact ⟨fun _ _ => .tooDeep, fun _ _ => .tooDeep⟩
  | succ levels ih =>
      obtain ⟨levels', rfl⟩ := Nat.exists_eq_add_of_le' (Nat.le_trans (Nat.le_add_left 1 _) h)
      obtain ⟨hexpression, hoperand⟩ := ih (Nat.le_of_succ_le_succ h)
      refine ⟨conditional_limited hexpression hoperand, ?_⟩
      exact (unary_limited hexpression hoperand).mono fun e he => he.mono (by omega)

theorem nested_within {levels stop : Nat} {ts rest : List Token} {e : Expr}
    (h : (nested levels).expression stop ts = .ok (e, rest)) : e.Within (8 * levels) := by
  have hlimits := (nested_limited (Nat.le_refl levels)).1 stop ts
  rw [h] at hlimits
  cases hlimits with
  | same h => exact h.of_eq_ok rfl

theorem expression_nil {stop : Nat} {e : Expr} (levels : Nat) :
    (nested levels).expression stop [] ≠ .ok (e, []) := by
  cases levels with
  | zero => exact nofun
  | succ levels =>
      have hnone : (nested (levels + 1)).expression stop [] =
          .error (unexpected "an expression" stop []) := rfl
      rw [hnone]
      exact nofun

/-! ### Long texts -/

/-- So many minus signs before `null`. -/
def negated (start : Nat) : Nat → List Token
  | 0 => [⟨.keyword .null, "null", start⟩]
  | n + 1 => ⟨.punctuator .minus, "-", start⟩ :: negated (start + 1) n

def negations (start : Nat) : Nat → Expr
  | 0 => .null
  | n + 1 => .unary .negate (negations (start + 1) n) start

theorem negations_path (start n : Nat) : (negations start n).Path n 0 .null := by
  induction n generalizing start with
  | zero => exact .root
  | succ n ih => exact .branch (List.mem_singleton.2 rfl) (ih (start + 1))

theorem operand_negated (start stop n : Nat) :
    (nested (n + 1)).operand stop (negated start n) = .ok (negations start n, []) := by
  induction n generalizing start with
  | zero => rfl
  | succ n ih =>
      rw [nested, negated]
      simp only [unary, Token.unaryOperator?, ih, ok_bind, negations]

theorem expression_negated (start stop n : Nat) :
    (nested (n + 1)).expression stop (negated start n) = .ok (negations start n, []) :=
  atRank_of_le (Nat.zero_le 8) (by decide) (operand_negated start stop n) (stops_nil 0)

/-- `null` and so many times `?? null` after it. -/
def alternatives (start : Nat) : Nat → List Token
  | 0 => [⟨.keyword .null, "null", start⟩]
  | n + 1 => ⟨.keyword .null, "null", start⟩ :: ⟨.punctuator .questions, "??", start + 5⟩ ::
      alternatives (start + 8) n

def coalesced (start : Nat) : Nat → Expr
  | 0 => .null
  | n + 1 => .binary .coalesce .null (coalesced (start + 8) n) (start + 5)

theorem coalesced_path (start n : Nat) : (coalesced start n).Path 0 n .null := by
  induction n generalizing start with
  | zero => exact .root
  | succ n ih => exact .tail rfl (ih (start + 8))

section Alternatives

variable {inner : Nested} {stop : Nat}

theorem operators_null {t : Token} {rest : List Token} (ht : t.lexeme = .keyword .null)
    (hrest : Stops 2 rest) :
    operators (unary inner) stop (t :: rest) = .ok (.null, rest) := by
  have hprimary : primary inner stop (t :: rest) = .ok (.null, rest) := by simp only [primary, ht]
  exact atRank_of_primary (n := 2) (by decide) hprimary hrest

theorem coalesceFrom_alternatives {fuel : Nat} (start n : Nat) (hfuel : n ≤ fuel) :
    coalesceFrom (operators (unary inner)) fuel stop (alternatives start n) =
      .ok (coalesced start n, []) := by
  induction n generalizing start fuel with
  | zero => exact coalesceFrom_of_operand (operators_null rfl (stops_nil 2)) rfl
  | succ n ih =>
      obtain ⟨fuel, rfl⟩ := Nat.exists_eq_add_of_le' (Nat.le_trans (Nat.le_add_left 1 n) hfuel)
      have hquestions (rest : List Token) :
          Stops 2 (⟨.punctuator .questions, "??", start + 5⟩ :: rest) :=
        stops_cons (r := 1) rfl (by decide)
      have hright := ih (start + 8) (Nat.le_of_succ_le_succ hfuel)
      rw [alternatives, coalesceFrom, operators_null rfl (hquestions _)]
      simp only [ok_bind, after?, Token.punctuator?, if_true, hright]
      rfl

end Alternatives

theorem le_length_alternatives (start n : Nat) : n ≤ (alternatives start n).length := by
  induction n generalizing start with
  | zero => exact Nat.zero_le _
  | succ n ih =>
      have hle := ih (start + 8)
      simp only [alternatives, List.length_cons]
      omega

theorem expression_alternatives (levels start stop n : Nat) :
    (nested (levels + 1)).expression stop (alternatives start n) = .ok (coalesced start n, []) :=
  atRank_of_le (m := 0) (n := 1) (by decide) (by decide)
    (coalesceFrom_alternatives start n (le_length_alternatives start n)) (stops_nil 0)

end Parser

namespace Expr

open Elementwise.Parser (nested maxNesting)

variable {ts : List Token} {stop : Nat} {e : Expr}

theorem expression_of_ofTokens (h : ofTokens ts stop = .ok e) :
    (nested maxNesting).expression stop ts = .ok (e, []) := by
  unfold ofTokens at h
  split at h
  · cases h
  · obtain ⟨⟨e', rest⟩, he, hlast⟩ := bind_eq_ok h
    simp only at hlast
    split at hlast
    · next hrest =>
        cases hlast
        rw [he, List.isEmpty_iff.mp hrest]
    · cases hlast

theorem ofTokens_of_expression (hts : ts ≠ [])
    (h : (nested maxNesting).expression stop ts = .ok (e, [])) : ofTokens ts stop = .ok e := by
  rw [ofTokens, if_neg (by simpa using hts), h, ok_bind]
  rfl

theorem ofTokens_of_error {x : SyntaxError} (hts : ts ≠ [])
    (h : (nested maxNesting).expression stop ts = .error x) : ofTokens ts stop = .error x := by
  rw [ofTokens, if_neg (by simpa using hts), h, error_bind]

/-- No path through an accepted expression has more than ten steps for each level of nesting, right
operands of `??` apart; and tokens that a greater number of levels would read as an expression with
a longer path are rejected as nesting too deep. -/
theorem ofTokens_paths (ts : List Token) (stop : Nat) :
    (∀ e, ofTokens ts stop = .ok e →
      ∀ n m part, e.Path n m part → n ≤ 10 * (maxNesting + 1)) ∧
    ∀ levels e n m part, (nested levels).expression stop ts = .ok (e, []) → e.Path n m part →
      10 * (maxNesting + 1) < n →
        ∃ offset, ofTokens ts stop = .error (.tooDeep maxNesting offset) := by
  constructor
  · intro e h n m part hpath
    have hle := Parser.nested_within (expression_of_ofTokens h) n m part hpath
    omega
  · intro levels e n m part h hpath hn
    have hlevels : maxNesting ≤ levels := by
      have hle := Parser.nested_within h n m part hpath
      omega
    have hts : ts ≠ [] := by
      rintro rfl
      exact Parser.expression_nil levels h
    have hlimits := (Parser.nested_limited hlevels).1 stop ts
    rw [h] at hlimits
    generalize ho : (nested maxNesting).expression stop ts = o at hlimits
    cases hlimits with
    | tooDeep => exact ⟨_, ofTokens_of_error hts ho⟩
    | same hwithin =>
        have hle := hwithin.of_eq_ok rfl n m part hpath
        omega

/-- One minus sign is read, and thirteen hundred nest too deep. -/
theorem ofTokens_paths_negated :
    (∃ e, ofTokens (Parser.negated 0 1) 5 = .ok e ∧
      ∀ n m part, e.Path n m part → n ≤ 10 * (maxNesting + 1)) ∧
    ∃ offset, ofTokens (Parser.negated 0 1300) 1304 = .error (.tooDeep maxNesting offset) := by
  refine ⟨⟨_, rfl, (ofTokens_paths (Parser.negated 0 1) 5).1 _ rfl⟩, ?_⟩
  exact (ofTokens_paths (Parser.negated 0 1300) 1304).2 _ _ _ _ _
    (Parser.expression_negated 0 1304 1300) (Parser.negations_path 0 1300) (by decide)

/-- In a row of `??` one level of nesting is enough for thirteen hundred steps. -/
theorem ofTokens_paths_coalesced :
    ∃ e part, ofTokens (Parser.alternatives 0 1300) 10404 = .ok e ∧ e.Path 0 1300 part ∧
      10 * (maxNesting + 1) < 1300 :=
  ⟨_, _, ofTokens_of_expression nofun (Parser.expression_alternatives _ 0 10404 1300),
    Parser.coalesced_path 0 1300, by decide⟩

end Expr

end Elementwise
