import Elementwise.Expr.Parser
import Elementwise.Proofs.Outcome
import Elementwise.Proofs.Syntax.Rendering

/-!
# The expression that relabelled tokens spell

A relabelling changes how the names of a text are written and where its tokens stand.  The parser
looks at the kinds of tokens and copies names and offsets, so relabelling the tokens relabels the
expression.  `Parser.Follows r p change`: from relabelled tokens, `p` reads what it reads from the
tokens themselves after `change`, and leaves the same tokens relabelled.
-/

namespace Elementwise

/-- A change of names that no lookup sees, and a change of offsets.  Either made again changes
nothing more. -/
structure Relabelling where
  name : String → String
  offset : Nat → Nat
  name_name : ∀ s, name (name s) = name s
  offset_offset : ∀ n, offset (offset n) = offset n
  name_quoted : ∀ s, name ("'" ++ name s ++ "'") = name ("'" ++ s ++ "'")
  fold_name : ∀ s, Text.fold (name s) = Text.fold s
  sameIgnoringAsciiCase_name : ∀ s t,
    Text.sameIgnoringAsciiCase s (name t) = Text.sameIgnoringAsciiCase s t

namespace Relabelling

variable (r : Relabelling)

/-- The token relabelled; text literals keep their spelling. -/
def token (t : Token) : Token :=
  match t.lexeme with
  | .string _ | .char _ => ⟨t.lexeme, t.spelling, r.offset t.offset⟩
  | .identifier name => ⟨.identifier (r.name name), r.name t.spelling, r.offset t.offset⟩
  | l => ⟨l, r.name t.spelling, r.offset t.offset⟩

def ident (id : Ident) : Ident :=
  ⟨r.name id.name, r.offset id.offset⟩

abbrev expr (e : Expr) : Expr :=
  e.mapParts r.ident r.offset

/-- The error with the text that it quotes and its offset relabelled. -/
def syntaxError : SyntaxError → SyntaxError
  | .emptyExpression => .emptyExpression
  | .unexpectedToken found expected offset =>
    .unexpectedToken (r.name found) expected (r.offset offset)
  | .missingAlias offset => .missingAlias (r.offset offset)
  | .wrongArgumentCount form expected found offset =>
    .wrongArgumentCount form expected found (r.offset offset)
  | .tooDeep limit offset => .tooDeep limit (r.offset offset)

/-! ### Single tokens -/

section Token

variable (t : Token)

theorem punctuator?_token : (r.token t).punctuator? = t.punctuator? := by
  obtain ⟨lexeme, spelling, offset⟩ := t
  cases lexeme <;> rfl

theorem keyword?_token : (r.token t).keyword? = t.keyword? := by
  obtain ⟨lexeme, spelling, offset⟩ := t
  cases lexeme <;> rfl

theorem offset_token : (r.token t).offset = r.offset t.offset := by
  obtain ⟨lexeme, spelling, offset⟩ := t
  cases lexeme <;> rfl

theorem binaryOperator?_token : (r.token t).binaryOperator? = t.binaryOperator? := by
  obtain ⟨lexeme, spelling, offset⟩ := t
  cases lexeme <;> rfl

theorem unaryOperator?_token : (r.token t).unaryOperator? = t.unaryOperator? := by
  obtain ⟨lexeme, spelling, offset⟩ := t
  cases lexeme <;> rfl

theorem ident?_token : (r.token t).ident? = t.ident?.map r.ident := by
  obtain ⟨lexeme, spelling, offset⟩ := t
  cases lexeme <;> rfl

theorem name_quoted_token : r.name (r.token t).quoted = r.name t.quoted := by
  obtain ⟨lexeme, spelling, offset⟩ := t
  cases lexeme with
  | string | char => rfl
  | _ => exact r.name_quoted spelling

end Token

/-- What is read and what is left, relabelled. -/
def read {α : Type} (change : α → α) (found : α × List Token) : α × List Token :=
  (change found.1, found.2.map r.token)

end Relabelling

namespace Parser

variable (r : Relabelling)

/-- From relabelled tokens, a parser reads what it reads from the tokens after `change`. -/
def Follows {α : Type} (p : Parser α) (change : α → α) : Prop :=
  ∀ (stop : Nat) (ts : List Token),
    Tracks r.syntaxError (r.read change) (p stop ts) (p (r.offset stop) (ts.map r.token))

theorem after?_relabel (s : Punctuator) (ts : List Token) :
    after? s (ts.map r.token) = (after? s ts).map (List.map r.token) := by
  cases ts with
  | nil => rfl
  | cons t ts =>
      rw [List.map_cons, after?, after?, r.punctuator?_token]
      split <;> rfl

theorem afterKeyword?_relabel (k : Keyword) (ts : List Token) :
    afterKeyword? k (ts.map r.token) = (afterKeyword? k ts).map (List.map r.token) := by
  cases ts with
  | nil => rfl
  | cons t ts =>
      rw [List.map_cons, afterKeyword?, afterKeyword?, r.keyword?_token]
      split <;> rfl

theorem position_relabel (stop : Nat) (ts : List Token) :
    position (r.offset stop) (ts.map r.token) = r.offset (position stop ts) := by
  cases ts with
  | nil => rfl
  | cons t ts => exact r.offset_token t

theorem unexpected_relabel (expected : String) (stop : Nat) (ts : List Token) :
    r.syntaxError (unexpected expected (r.offset stop) (ts.map r.token)) =
      r.syntaxError (unexpected expected stop ts) := by
  cases ts with
  | nil =>
      exact congrArg (SyntaxError.unexpectedToken _ expected) (r.offset_offset stop)
  | cons t ts =>
      simp only [List.map_cons, unexpected, Relabelling.syntaxError, r.name_quoted_token]
      rw [← List.map_cons, position_relabel, r.offset_offset]

variable {r} {α : Type} {p : Parser α} {change : α → α} {stop : Nat} {ts : List Token}

theorem require_follows (s : Punctuator) (expected : String) :
    Follows r (require s expected) id := by
  intro stop ts
  unfold require
  rw [after?_relabel]
  cases after? s ts with
  | some rest => exact .ok ((), rest)
  | none => exact .error (unexpected_relabel r expected stop ts)

theorem ident_follows (expected : String) : Follows r (ident expected) r.ident := by
  intro stop ts
  cases ts with
  | nil => exact .error (unexpected_relabel r expected stop [])
  | cons t ts =>
      rw [List.map_cons]
      simp only [ident, r.ident?_token]
      cases t.ident? with
      | some id => exact .ok (id, ts)
      | none => exact .error (unexpected_relabel r expected stop (t :: ts))

/-! ### Lists -/

theorem itemsUntil_follows {close : Punctuator} {expected : String} (hp : Follows r p change)
    (fuel : Nat) : Follows r (itemsUntil close expected p fuel) (List.map change) := by
  induction fuel with
  | zero => exact fun stop ts => .error (unexpected_relabel r expected stop ts)
  | succ fuel ih =>
      intro stop ts
      apply (hp stop ts).bind
      rintro ⟨x, rest⟩
      simp only [Relabelling.read, after?_relabel]
      cases after? .comma rest with
      | some rest₁ =>
          apply (ih stop rest₁).bind
          rintro ⟨xs, rest₂⟩
          exact .ok (x :: xs, rest₂)
      | none =>
          cases after? close rest with
          | some rest₁ => exact .ok ([x], rest₁)
          | none => exact .error (unexpected_relabel r expected stop rest)

theorem listUntil_follows {close : Punctuator} {expected : String} (hp : Follows r p change) :
    Follows r (listUntil close expected p) (List.map change) := by
  intro stop ts
  unfold listUntil
  rw [after?_relabel, List.length_map]
  cases after? close ts with
  | some rest => exact .ok ([], rest)
  | none => exact itemsUntil_follows hp _ stop ts

/-! ### Operators -/

section Operators

variable {operand : Parser Expr}

theorem chainFrom_follows {level : Precedence} (hp : Follows r operand r.expr) (fuel : Nat)
    (left : Expr) (stop : Nat) (ts : List Token) :
    Tracks r.syntaxError (r.read r.expr) (chainFrom level operand fuel left stop ts)
      (chainFrom level operand fuel (r.expr left) (r.offset stop) (ts.map r.token)) := by
  induction fuel generalizing left ts with
  | zero => exact .ok (left, ts)
  | succ fuel ih =>
      cases ts with
      | nil => exact .ok (left, [])
      | cons t ts =>
          rw [List.map_cons]
          simp only [chainFrom, r.binaryOperator?_token, r.offset_token]
          cases t.binaryOperator? with
          | none => exact .ok (left, t :: ts)
          | some op =>
              by_cases hop : op.precedence? = some level
              · simp only [if_pos hop]
                apply (hp stop ts).bind
                rintro ⟨right, rest⟩
                exact ih (Expr.binary op left right t.offset) rest
              · simp only [if_neg hop]
                exact .ok (left, t :: ts)

theorem chain_follows {level : Precedence} (hp : Follows r operand r.expr) :
    Follows r (chain level operand) r.expr := by
  intro stop ts
  apply (hp stop ts).bind
  rintro ⟨left, rest⟩
  simp only [Relabelling.read, List.length_map]
  exact chainFrom_follows hp rest.length left stop rest

theorem operators_follows (hp : Follows r operand r.expr) :
    Follows r (operators operand) r.expr := by
  unfold operators
  induction Precedence.tightestFirst generalizing operand with
  | nil => exact hp
  | cons level levels ih => exact ih (chain_follows hp)

theorem coalesceFrom_follows (hp : Follows r operand r.expr) (fuel : Nat) :
    Follows r (coalesceFrom operand fuel) r.expr := by
  induction fuel with
  | zero => exact hp
  | succ fuel ih =>
      intro stop ts
      apply (hp stop ts).bind
      rintro ⟨left, rest⟩
      simp only [Relabelling.read, after?_relabel, position_relabel]
      cases after? .questions rest with
      | none => exact .ok (left, rest)
      | some rest₁ =>
          apply (ih stop rest₁).bind
          rintro ⟨right, rest₂⟩
          exact .ok (Expr.binary .coalesce left right (position stop rest), rest₂)

theorem coalesce_follows (hp : Follows r operand r.expr) :
    Follows r (coalesce operand) r.expr := by
  intro stop ts
  rw [coalesce, coalesce, List.length_map]
  exact coalesceFrom_follows hp ts.length stop ts

end Operators

/-! ### The levels of one depth -/

section Levels

variable {inner : Nested} (hinner : Follows r inner.expression r.expr)
include hinner

theorem arguments_follows {close : Punctuator} {expected : String} :
    Follows r (arguments inner close expected) (List.map r.expr) :=
  listUntil_follows hinner

theorem fixedArguments_follows {form : String} {count : Nat} (offset stop : Nat) (ts : List Token) :
    Tracks r.syntaxError (r.read (List.map r.expr)) (fixedArguments inner form count offset stop ts)
      (fixedArguments inner form count (r.offset offset) (r.offset stop) (ts.map r.token)) := by
  apply (require_follows _ _ stop ts).bind
  rintro ⟨_, rest⟩
  apply (arguments_follows hinner stop rest).bind
  rintro ⟨args, rest₁⟩
  simp only [Relabelling.read, List.length_map]
  split
  · exact .ok (args, rest₁)
  · exact .error (congrArg (SyntaxError.wrongArgumentCount form count _) (r.offset_offset offset))

theorem lambdaBody_follows (param : Ident) (stop : Nat) (ts : List Token) :
    Tracks r.syntaxError (r.read r.expr) (lambdaBody inner param stop ts)
      (lambdaBody inner (r.ident param) (r.offset stop) (ts.map r.token)) := by
  apply (require_follows _ _ stop ts).bind
  rintro ⟨_, rest⟩
  apply (hinner stop rest).bind
  rintro ⟨body, rest₁⟩
  exact .ok (Expr.lambda param body, rest₁)

theorem recordMember_follows :
    Follows r (recordMember inner) (Expr.mapMember r.ident r.offset) := by
  intro stop ts
  unfold recordMember
  rw [position_relabel]
  apply (hinner stop ts).bind
  rintro ⟨value, rest⟩
  simp only [Relabelling.read, afterKeyword?_relabel]
  cases afterKeyword? .as rest with
  | none => exact .error (congrArg SyntaxError.missingAlias (r.offset_offset _))
  | some rest₁ =>
      apply (ident_follows _ stop rest₁).bind
      rintro ⟨name, rest₂⟩
      exact .ok ((name, value), rest₂)

theorem newForm_follows (offset stop : Nat) (ts : List Token) :
    Tracks r.syntaxError (r.read r.expr) (newForm inner offset stop ts)
      (newForm inner (r.offset offset) (r.offset stop) (ts.map r.token)) := by
  unfold newForm
  simp only [after?_relabel]
  cases after? .openBracket ts with
  | some rest =>
      apply (require_follows _ _ stop rest).bind
      rintro ⟨_, rest₁⟩
      apply (require_follows _ _ stop rest₁).bind
      rintro ⟨_, rest₂⟩
      apply (arguments_follows hinner stop rest₂).bind
      rintro ⟨elements, rest₃⟩
      simp only [Relabelling.read, ← Expr.mapAll_eq_map]
      exact .ok (Expr.array elements offset, rest₃)
  | none =>
      cases after? .openParen ts with
      | some rest =>
          apply (listUntil_follows (recordMember_follows hinner) stop rest).bind
          rintro ⟨members, rest₁⟩
          simp only [Relabelling.read, ← Expr.mapMembers_eq_map]
          exact .ok (Expr.record members offset, rest₁)
      | none => exact .error (unexpected_relabel r _ stop ts)

theorem named_follows (id : Ident) (stop : Nat) (ts : List Token) :
    Tracks r.syntaxError (r.read r.expr) (named inner id stop ts)
      (named inner (r.ident id) (r.offset stop) (ts.map r.token)) := by
  unfold named
  rw [after?_relabel, Option.isSome_map]
  split
  · exact lambdaBody_follows hinner id stop ts
  · have hquestion : (after? .question (ts.map r.token)).bind (after? .openParen) =
        ((after? .question ts).bind (after? .openParen)).map (List.map r.token) := by
      rw [after?_relabel]
      cases after? .question ts with
      | none => rfl
      | some rest => exact after?_relabel r .openParen rest
    rw [hquestion]
    cases (after? .question ts).bind (after? .openParen) with
    | none => exact .ok (Expr.identifier id, ts)
    | some rest =>
        apply (arguments_follows hinner stop rest).bind
        rintro ⟨args, rest₁⟩
        simp only [Relabelling.read, ← Expr.mapAll_eq_map]
        exact .ok (Expr.nullableConversion id args, rest₁)

omit hinner in
theorem parameter?_relabel (ts : List Token) :
    parameter? (ts.map r.token) =
      (parameter? ts).map fun found => (r.ident found.1, found.2.map r.token) := by
  cases ts with
  | nil => rfl
  | cons t ts =>
      simp only [List.map_cons, parameter?, r.ident?_token, after?_relabel]
      cases t.ident? with
      | none => rfl
      | some id =>
          cases after? .closeParen ts with
          | none => rfl
          | some rest =>
              simp only [Option.map_some, Option.bind_eq_bind, Option.bind_some, after?_relabel,
                Option.isSome_map]
              split <;> rfl

theorem parenthesized_follows : Follows r (parenthesized inner) r.expr := by
  intro stop ts
  unfold parenthesized
  rw [parameter?_relabel]
  cases parameter? ts with
  | some found => exact lambdaBody_follows hinner found.1 stop found.2
  | none =>
      apply (hinner stop ts).bind
      rintro ⟨e, rest⟩
      apply (require_follows _ _ stop rest).bind
      rintro ⟨_, rest₁⟩
      exact .ok (e, rest₁)

theorem primary_follows : Follows r (primary inner) r.expr := by
  intro stop ts
  cases ts with
  | nil => exact .error (unexpected_relabel r "an expression" stop [])
  | cons t ts =>
      have hother := unexpected_relabel r "an expression" stop (t :: ts)
      obtain ⟨lexeme, spelling, offset⟩ := t
      cases lexeme with
      | number n => exact .ok (Expr.literal (.number n), ts)
      | string s => exact .ok (Expr.literal (.string s), ts)
      | char c => exact .ok (Expr.literal (.char c), ts)
      | identifier name => exact named_follows hinner ⟨name, offset⟩ stop ts
      | punctuator s =>
          cases s with
          | openParen => exact parenthesized_follows hinner stop ts
          | _ => exact .error hother
      | keyword word =>
          cases word with
          | null => exact .ok (Expr.null, ts)
          | «true» => exact .ok (Expr.literal (.boolean true), ts)
          | «false» => exact .ok (Expr.literal (.boolean false), ts)
          | new => exact newForm_follows hinner offset stop ts
          | it =>
              simp only [primary, Relabelling.token, List.map_cons, after?_relabel,
                Option.isSome_map]
              split
              · exact lambdaBody_follows hinner ⟨spelling, offset⟩ stop ts
              · exact .ok (Expr.it offset, ts)
          | np =>
              apply (fixedArguments_follows hinner offset stop ts).bind
              rintro ⟨_ | ⟨e, _ | _⟩, rest⟩
              · exact .error hother
              · exact .ok (Expr.nullPropagation e offset, rest)
              · exact .error hother
          | iif =>
              apply (fixedArguments_follows hinner offset stop ts).bind
              rintro ⟨_ | ⟨c, _ | ⟨a, _ | ⟨b, _ | _⟩⟩⟩, rest⟩
              · exact .error hother
              · exact .error hother
              · exact .error hother
              · exact .ok (Expr.conditional c a b offset, rest)
              · exact .error hother
          | _ => exact .error hother

theorem postfixFrom_follows (fuel : Nat) (e : Expr) (stop : Nat) (ts : List Token) :
    Tracks r.syntaxError (r.read r.expr) (postfixFrom inner fuel e stop ts)
      (postfixFrom inner fuel (r.expr e) (r.offset stop) (ts.map r.token)) := by
  induction fuel generalizing e ts with
  | zero => exact .ok (e, ts)
  | succ fuel ih =>
      cases ts with
      | nil => exact .ok (e, [])
      | cons t ts =>
          rw [List.map_cons]
          simp only [postfixFrom, r.punctuator?_token, r.offset_token]
          split
          · apply (ident_follows _ stop ts).bind
            rintro ⟨name, rest⟩
            exact ih (.member e name) rest
          · apply (arguments_follows hinner stop ts).bind
            rintro ⟨args, rest⟩
            simp only [Relabelling.read, ← Expr.mapAll_eq_map]
            exact ih (.call e args t.offset) rest
          · apply (arguments_follows hinner stop ts).bind
            rintro ⟨args, rest⟩
            simp only [Relabelling.read, ← Expr.mapAll_eq_map]
            exact ih (.index e args t.offset) rest
          · exact .ok (e, t :: ts)

theorem postfixChain_follows : Follows r (postfixChain inner) r.expr := by
  intro stop ts
  apply (primary_follows hinner stop ts).bind
  rintro ⟨e, rest⟩
  simp only [Relabelling.read, List.length_map]
  exact postfixFrom_follows hinner rest.length e stop rest

theorem unary_follows (hoperand : Follows r inner.operand r.expr) :
    Follows r (unary inner) r.expr := by
  intro stop ts
  cases ts with
  | nil => exact postfixChain_follows hinner stop []
  | cons t ts =>
      have hchain := postfixChain_follows hinner stop (t :: ts)
      rw [List.map_cons] at hchain ⊢
      simp only [unary, r.unaryOperator?_token, r.offset_token]
      cases t.unaryOperator? with
      | none => exact hchain
      | some op =>
          apply (hoperand stop ts).bind
          rintro ⟨operand, rest⟩
          exact .ok (Expr.unary op operand t.offset, rest)

theorem conditional_follows (hoperand : Follows r inner.operand r.expr) :
    Follows r (conditional inner) r.expr := by
  intro stop ts
  have hcoalesce := coalesce_follows (operators_follows (unary_follows hinner hoperand))
  apply (hcoalesce stop ts).bind
  rintro ⟨c, rest⟩
  simp only [Relabelling.read, after?_relabel, position_relabel]
  cases after? .question rest with
  | none => exact .ok (c, rest)
  | some rest₁ =>
      apply (hinner stop rest₁).bind
      rintro ⟨a, rest₂⟩
      apply (require_follows _ _ stop rest₂).bind
      rintro ⟨_, rest₃⟩
      apply (hinner stop rest₃).bind
      rintro ⟨b, rest₄⟩
      exact .ok (Expr.conditional c a b (position stop rest), rest₄)

end Levels

/-! ### Expressions -/

theorem nested_follows (levels : Nat) :
    Follows r (nested levels).expression r.expr ∧ Follows r (nested levels).operand r.expr := by
  induction levels with
  | zero =>
      refine ⟨?_, ?_⟩ <;>
      · intro stop ts
        refine .error (congrArg (SyntaxError.tooDeep maxNesting) ?_)
        rw [position_relabel, r.offset_offset]
  | succ levels ih => exact ⟨conditional_follows ih.1 ih.2, unary_follows ih.1 ih.2⟩

end Parser

theorem Expr.ofTokens_relabel (r : Relabelling) (ts : List Token) (stop : Nat) :
    Tracks r.syntaxError r.expr (Expr.ofTokens ts stop)
      (Expr.ofTokens (ts.map r.token) (r.offset stop)) := by
  unfold Expr.ofTokens
  rw [List.isEmpty_map]
  split
  · exact .error rfl
  · apply ((Parser.nested_follows _).1 stop ts).bind
    rintro ⟨e, rest⟩
    simp only [Relabelling.read, List.isEmpty_map]
    split
    · exact .ok e
    · exact .error (Parser.unexpected_relabel r _ stop rest)

end Elementwise
