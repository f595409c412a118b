import Elementwise.Proofs.Hereditary.Binding
import Elementwise.Proofs.Pervasive.Function
import Elementwise.Proofs.Pervasive.Query

/-!
Evaluation keeps pervasive properties: if the parameters have one, so have the values of all parts of
an expression that evaluation comes to.  What could give a date, a span or a character which was not
there before is asked for part by part.
-/

namespace Elementwise

/-! ### The constants of the library -/

/-- The value of a member that is a constant. -/
def Member.constant? : Member → Option Value
  | constant _ _ v => some v
  | _ => none

theorem Library.constant_of_all {p : Value → Bool}
    (h : (standard.all fun s => s.members.all fun m => m.constant?.all p) = true)
    {s : LibrarySymbol} {name : String} {ty : Ty} {v : Value} (hs : s ∈ standard)
    (hv : .constant name ty v ∈ s.members) : p v = true :=
  List.all_eq_true.1 (List.all_eq_true.1 h s hs) _ hv

namespace Eval

open Value (Pervasive)

/-! ### Parts -/

theorem forall_mem_pair {α : Type} {p : α → Prop} {a b : α} : (∀ x ∈ [a, b], p x) ↔ p a ∧ p b := by
  rw [List.forall_mem_cons, List.forall_mem_singleton]

/-- The source of a query, and the function that it has for the items. -/
def sourceAndFunction? : Term → Option (Term × Term)
  | .query _ source (some body) _ _ _ => some (source, body)
  | _ => none

/-- The parts that a term is made of, with the environments that evaluation comes to them in. -/
inductive Part (t : Term) (env : List Value) : Term → List Value → Prop where
  | operand {part : Term} (h : part ∈ t.operands) : Part t env part env
  | function {source body : Term} {items : List Value} {item : Value}
    (h : sourceAndFunction? t = some (source, body))
    (hs : evaluate source env = .ok (.array items)) (hi : item ∈ items) :
    Part t env body (item :: env)

section Parts

variable {root t part : Term} {start env env' : List Value}

theorem sourceAndFunction?_eq_some {source body : Term}
    (h : sourceAndFunction? t = some (source, body)) :
    ∃ q args conditional ty, t = .query q source (some body) args conditional ty := by
  unfold sourceAndFunction? at h
  split at h
  · cases h
    exact ⟨_, _, _, _, rfl⟩
  · cases h

theorem Meets.next (h : Meets root start t env) (hp : Part t env part env') :
    Meets root start part env' := by
  cases hp with
  | operand hp => exact h.operand hp
  | function ht hs hi =>
      obtain ⟨q, args, conditional, ty, rfl⟩ := sourceAndFunction?_eq_some ht
      exact h.body hs hi

theorem Meets.trans (h : Meets root start t env) (h' : Meets t env part env') :
    Meets root start part env' := by
  induction h' with
  | root => exact h
  | operand _ hp ih => exact ih.operand hp
  | body _ hs hi ih => exact ih.body hs hi

/-- Evaluation comes to a term itself, and else it comes to one of its parts first. -/
theorem Meets.cases_head (h : Meets t env part env') :
    (part = t ∧ env' = env) ∨ ∃ first env₁, Part t env first env₁ ∧ Meets first env₁ part env' := by
  have hnext {p : Term} {e : List Value} {last : Term} {envₗ : List Value} (hp : Part p e last envₗ)
      (ih : (p = t ∧ e = env) ∨ ∃ first env₁, Part t env first env₁ ∧ Meets first env₁ p e) :
      ∃ first env₁, Part t env first env₁ ∧ Meets first env₁ last envₗ := by
    rcases ih with ⟨rfl, rfl⟩ | ⟨first, env₁, hfirst, h⟩
    · exact ⟨last, envₗ, hp, .root⟩
    · exact ⟨first, env₁, hfirst, h.next hp⟩
  induction h with
  | root => exact Or.inl ⟨rfl, rfl⟩
  | operand _ hp ih => exact Or.inr (hnext (.operand hp) ih)
  | body _ hs hi ih => exact Or.inr (hnext (.function rfl hs hi) ih)

end Parts

/-! ### Parts of values -/

section Values

variable {P : Value → Prop} {v : Value} {env : List Value}

theorem fieldOf_ensures (hP : Pervasive P) (index : Nat) (conditional : Bool) (hv : P v) :
    Ensures P (fieldOf v index conditional) := by
  unfold fieldOf
  split
  · split
    · rename_i h
      exact .ok (hP.record_iff.1 hv _ (List.mem_of_getElem? h))
    · exact .error
  · split
    · exact .ok (hP.plain rfl)
    · exact .error
  · exact .error

/-- What is at a position of a value that is no string. -/
theorem elementAt_ensures (hP : Pervasive P) (position : Value) (hv : P v)
    (hne : ∀ s, v ≠ .string s) : Ensures P (elementAt v position) := by
  unfold elementAt
  dsimp only
  split
  · split
    · split
      · rename_i h
        split at h
        · cases h
        · exact .ok (hP.array_iff.1 hv _ (List.mem_of_getElem? h))
      · exact .error
    · exact absurd rfl (hne _)
    · exact .error
  · exact .error

theorem elementAt_string {s : String} {position : Value} (h : elementAt (.string s) position = .ok v) :
    ∃ c ∈ s.toList, v = .char c := by
  unfold elementAt at h
  split at h
  · obtain ⟨c, hc, rfl⟩ := map_eq_ok h
    split at hc
    · cases hc
    · dsimp only at hc
      split at hc
      · rename_i hitem
        cases hc
        exact ⟨c, List.mem_of_getElem? hitem, rfl⟩
      · cases hc
  · cases h

theorem itemsOf_ensures (hP : Pervasive P) (q : Query) (hv : P v) :
    Ensures (fun items => v = .array items ∧ ∀ v ∈ items, P v) (itemsOf q v) := by
  unfold itemsOf
  split
  · exact .ok ⟨rfl, hP.array_iff.1 hv⟩
  · exact .error
  · exact .error

theorem evaluateAll_ensures {ts : List Term} (h : ∀ t ∈ ts, Ensures P (evaluate t env)) :
    Ensures (fun vs => ∀ v ∈ vs, P v) (evaluateAll ts env) := by
  induction ts with
  | nil => exact .ok nofun
  | cons t ts ih =>
      obtain ⟨ht, hts⟩ := List.forall_mem_cons.1 h
      rw [evaluateAll]
      exact ht.bind fun v hv => (ih hts).bind fun vs hvs => .ok (List.forall_mem_cons.2 ⟨hv, hvs⟩)

theorem evaluateArguments_ensures {ts : List Term} (conditional : Bool)
    (h : ∀ t ∈ ts, Ensures P (evaluate t env)) :
    Ensures (fun o => ∀ vs ∈ o, ∀ v ∈ vs, P v) (evaluateArguments conditional ts env) := by
  cases ts with
  | nil =>
      refine .ok ?_
      rintro vs ⟨⟩
      exact List.forall_mem_nil _
  | cons t ts =>
      obtain ⟨ht, hts⟩ := List.forall_mem_cons.1 h
      rw [evaluateArguments]
      refine ht.bind fun v hv => ?_
      split
      · exact .ok fun vs hvs => absurd hvs (Option.not_mem_none vs)
      · refine (evaluateAll_ensures hts).bind fun vs hvs => .ok ?_
        rintro vs ⟨⟩
        exact List.forall_mem_cons.2 ⟨hv, hvs⟩

end Values

/-! ### Terms -/

/-- A pervasive property that evaluation keeps where the parts it comes to are allowed. -/
structure Preserved (P : Value → Prop) (Allowed : Term → List Value → Prop) : Prop
    extends Operable P where
  default (t : Ty) : P t.default
  library {s : LibrarySymbol} {name : String} {ty : Ty} {v : Value} (hs : s ∈ Library.standard)
    (h : .constant name ty v ∈ s.members) : P v
  literal {c : Char} {ty : Ty} {env : List Value} (h : Allowed (.constant (.char c) ty) env) :
    P (.char c)
  item {receiver index : Term} {conditional : Bool} {ty : Ty} {env : List Value} {s : String}
    {c : Char} (h : Allowed (.index receiver index conditional ty) env)
    (hs : evaluate receiver env = .ok (.string s)) (hmem : c ∈ s.toList)
    (hc : evaluate (.index receiver index conditional ty) env = .ok (.char c)) : P (.char c)
  producer {b : Builtin} {args : List Term} {conditional : Bool} {ty : Ty} {env vs : List Value}
    (hb : b.isProducer = true) (h : Allowed (.call b args conditional ty) env)
    (hargs : evaluateArguments conditional args env = .ok (some vs)) (hvs : ∀ v ∈ vs, P v) :
    Ensures P (invoke b vs none)

/-- Where the parameters have the property and all parts that evaluation comes to are allowed, the
values of these parts have the property. -/
def Keeps (P : Value → Prop) (Allowed : Term → List Value → Prop) (t : Term) : Prop :=
  ∀ env, (∀ v ∈ env, P v) → (∀ part env', Meets t env part env' → Allowed part env') →
    ∀ part env', Meets t env part env' → Ensures P (evaluate part env')

section Terms

variable {P : Value → Prop} {Allowed : Term → List Value → Prop} {t : Term}

/-- It suffices that the parts of a term keep the property, and the last step of its evaluation. -/
theorem Keeps.of_parts (hP : Pervasive P) (hoperands : ∀ p ∈ t.operands, Keeps P Allowed p)
    (hfunction : ∀ source body, sourceAndFunction? t = some (source, body) →
      source ∈ t.operands ∧ Keeps P Allowed body)
    (hstep : ∀ env, (∀ v ∈ env, P v) → Allowed t env →
      (∀ part env', Part t env part env' → Ensures P (evaluate part env')) →
      Ensures P (evaluate t env)) : Keeps P Allowed t := by
  intro env henv hallowed
  have hoperand (p : Term) (hp : p ∈ t.operands) : Ensures P (evaluate p env) :=
    hoperands p hp env henv (fun _ _ h => hallowed _ _ ((Meets.root.operand hp).trans h)) p env .root
  have hpart (first : Term) (env₁ : List Value) (hfirst : Part t env first env₁) :
      ∀ part env', Meets first env₁ part env' → Ensures P (evaluate part env') := by
    have hbelow (part : Term) (env' : List Value) (h : Meets first env₁ part env') :
        Allowed part env' :=
      hallowed part env' ((Meets.root.next hfirst).trans h)
    cases hfirst with
    | operand hp => exact hoperands first hp env henv hbelow
    | function ht hs hi =>
        -- the item is a part of the value of the source
        obtain ⟨hsource, hbody⟩ := hfunction _ _ ht
        have hitems := hP.array_iff.1 ((hoperand _ hsource).of_eq_ok hs)
        exact hbody _ (List.forall_mem_cons.2 ⟨hitems _ hi, henv⟩) hbelow
  intro part env' h
  rcases h.cases_head with ⟨rfl, rfl⟩ | ⟨first, env₁, hfirst, h⟩
  · exact hstep env' henv (hallowed _ _ .root) fun first env₁ hfirst =>
      hpart first env₁ hfirst first env₁ .root
  · exact hpart first env₁ hfirst part env' h

theorem Keeps.of_operands (hP : Pervasive P) (ht : sourceAndFunction? t = none)
    (hoperands : ∀ p ∈ t.operands, Keeps P Allowed p)
    (hstep : ∀ env, (∀ v ∈ env, P v) → Allowed t env →
      (∀ p ∈ t.operands, Ensures P (evaluate p env)) → Ensures P (evaluate t env)) :
    Keeps P Allowed t := by
  refine .of_parts hP hoperands (fun source body h => ?_) fun env henv hallowed hparts =>
    hstep env henv hallowed fun p hp => hparts p env (.operand hp)
  rw [ht] at h
  cases h

theorem Keeps.of_operand (hP : Pervasive P) {operand : Term} (hoperands : t.operands = [operand])
    (ht : sourceAndFunction? t = none) (h : Keeps P Allowed operand)
    (hstep : ∀ env, Ensures P (evaluate operand env) → Ensures P (evaluate t env)) :
    Keeps P Allowed t := by
  have hmem : operand ∈ t.operands := hoperands ▸ List.mem_singleton_self operand
  refine .of_operands hP ht (fun p hp => ?_) fun env _ _ hvalue => hstep env (hvalue _ hmem)
  rw [hoperands, List.mem_singleton] at hp
  exact hp ▸ h

theorem Keeps.constant (hP : Pervasive P) {v : Value} {ty : Ty}
    (hv : ∀ env, Allowed (.constant v ty) env → P v) : Keeps P Allowed (.constant v ty) := by
  refine .of_operands hP rfl nofun fun env _ hallowed _ => ?_
  rw [evaluate]
  exact .ok (hv env hallowed)

variable (hP : Preserved P Allowed) {left right condition whenTrue whenFalse : Term}
  {args : List Term}
include hP

theorem Keeps.literal (l : Literal) : Keeps P Allowed (Typing.bindLiteral l) := by
  cases l with
  | char c => exact .constant hP.toPervasive fun env h => hP.literal h
  | number n =>
      cases n with
      | char c => exact .constant hP.toPervasive fun env h => hP.literal h
      | _ => exact .constant hP.toPervasive fun _ _ => hP.plain rfl
  | _ => exact .constant hP.toPervasive fun _ _ => hP.plain rfl

theorem Keeps.parameter (depth : Nat) (ty : Ty) : Keeps P Allowed (.parameter depth ty) := by
  refine .of_operands hP.toPervasive rfl nofun fun env henv _ _ => ?_
  rw [evaluate]
  split
  · rename_i h
    exact .ok (henv _ (List.mem_of_getElem? h))
  · exact .error

theorem Keeps.binary (op : Operation) (lifted : Bool) (ty : Ty) (hl : Keeps P Allowed left)
    (hr : Keeps P Allowed right) : Keeps P Allowed (.binary op left right lifted ty) := by
  refine .of_operands hP.toPervasive rfl (forall_mem_pair.2 ⟨hl, hr⟩) fun env _ _ hvalues => ?_
  obtain ⟨hleft, hright⟩ := forall_mem_pair.1 hvalues
  rw [evaluate]
  refine hleft.bind fun v hv => ?_
  split
  · exact .ok (hP.plain rfl)
  · exact hright
  · exact .ok (hP.plain rfl)
  · exact hright
  · exact hright.bind fun w hw => binaryOn_ensures hP.toOperable _ lifted hv hw

theorem Keeps.coalesce (ty : Ty) (hl : Keeps P Allowed left) (hr : Keeps P Allowed right) :
    Keeps P Allowed (.coalesce left right ty) := by
  refine .of_operands hP.toPervasive rfl (forall_mem_pair.2 ⟨hl, hr⟩) fun env _ _ hvalues => ?_
  obtain ⟨hleft, hright⟩ := forall_mem_pair.1 hvalues
  rw [evaluate]
  refine hleft.bind fun v hv => ?_
  split
  · exact hright
  · exact .ok hv

theorem Keeps.choice (ty : Ty) (hc : Keeps P Allowed condition) (ht : Keeps P Allowed whenTrue)
    (hf : Keeps P Allowed whenFalse) :
    Keeps P Allowed (.choice condition whenTrue whenFalse ty) := by
  refine .of_operands hP.toPervasive rfl (List.forall_mem_cons.2
    ⟨hc, forall_mem_pair.2 ⟨ht, hf⟩⟩) fun env _ _ hvalues => ?_
  obtain ⟨hcondition, hbranches⟩ := List.forall_mem_cons.1 hvalues
  obtain ⟨htrue, hfalse⟩ := forall_mem_pair.1 hbranches
  rw [evaluate]
  refine hcondition.bind fun v _ => ?_
  split
  · exact htrue
  · exact hfalse
  · exact .error

theorem Keeps.call (b : Builtin) (conditional : Bool) (ty : Ty)
    (ha : ∀ a ∈ args, Keeps P Allowed a) : Keeps P Allowed (.call b args conditional ty) := by
  refine .of_operands hP.toPervasive rfl ha fun env _ hallowed hvalues => ?_
  have hargs := evaluateArguments_ensures conditional hvalues
  rw [evaluate]
  cases h : evaluateArguments conditional args env with
  | error f => exact .error
  | ok o =>
      cases o with
      | none => exact .ok (hP.plain rfl)
      | some vs =>
          have hvs := hargs.of_eq_ok h vs rfl
          exact invoke_ensures hP.toPervasive b none
            (fun hb => hP.producer hb hallowed h hvs) hvs

theorem Keeps.index (conditional : Bool) (ty : Ty) (hl : Keeps P Allowed left)
    (hr : Keeps P Allowed right) : Keeps P Allowed (.index left right conditional ty) := by
  refine .of_operands hP.toPervasive rfl (forall_mem_pair.2 ⟨hl, hr⟩)
    fun env _ hallowed hvalues => ?_
  obtain ⟨hleft, -⟩ := forall_mem_pair.1 hvalues
  cases hs : evaluate left env with
  | error f =>
      rw [evaluate, hs]
      exact .error
  | ok v =>
      have hv : P v := hleft.of_eq_ok hs
      cases v with
      | string s =>
          cases h : evaluate (.index left right conditional ty) env with
          | error f => exact .error
          | ok w =>
              have hw := h
              rw [evaluate, hs, ok_bind] at hw
              obtain ⟨position, -, hw⟩ := bind_eq_ok hw
              obtain ⟨c, hc, rfl⟩ := elementAt_string hw
              exact .ok (hP.item hallowed hs hc h)
      | null =>
          rw [evaluate, hs]
          cases conditional with
          | true => exact .ok hv
          | false => exact .error
      | _ =>
          rw [evaluate, hs]
          exact (Ensures.trivial (evaluate right env)).bind fun w _ =>
            elementAt_ensures hP.toPervasive w hv nofun

theorem Keeps.query {q : Query} {source : Term} {body : Option Term} (conditional : Bool) (ty : Ty)
    (hq : q.HasTypeDefault) (hs : Keeps P Allowed source)
    (hb : ∀ b, body = some b → Keeps P Allowed b) (ha : ∀ a ∈ args, Keeps P Allowed a) :
    Keeps P Allowed (.query q source body args conditional ty) := by
  have hdefault (v : Value) (h : q.default? = some v) : P v := by
    obtain ⟨t, rfl⟩ := hq v h
    exact hP.default t
  refine .of_parts hP.toPervasive (List.forall_mem_cons.2 ⟨hs, ha⟩) (fun s b h => ?_)
    fun env henv hallowed hparts => ?_
  · obtain ⟨_, _, _, _, h⟩ := sourceAndFunction?_eq_some h
    cases h
    exact ⟨List.mem_cons_self, hb b rfl⟩
  have hsource := hparts source env (.operand List.mem_cons_self)
  rw [evaluate]
  cases h : evaluate source env with
  | error f => exact .error
  | ok v =>
      rw [ok_bind]
      split
      · exact .ok (hP.plain rfl)
      · refine (itemsOf_ensures hP.toPervasive q (hsource.of_eq_ok h)).bind fun items hitems =>
          (Ensures.trivial (evaluateAll args env)).bind fun values _ => ?_
        obtain ⟨rfl, hi⟩ := hitems
        cases body with
        | none => exact query_ensures hP.toPervasive q hdefault (by rintro f ⟨⟩) hi
        | some body =>
            refine query_ensures hP.toPervasive q hdefault ?_ hi
            rintro f ⟨⟩ item hitem
            exact hparts body (item :: env) (.function rfl h hitem)

theorem keeps_hereditary : Hereditary (Keeps P Allowed) where
  null := .constant hP.toPervasive fun _ _ => hP.plain rfl
  literal l := .literal hP l
  default t := .constant hP.toPervasive fun _ _ => hP.default t
  library hs h := .constant hP.toPervasive fun _ _ => hP.library hs h
  parameter depth ty := .parameter hP depth ty
  coerce c ty h := by
    refine .of_operand hP.toPervasive rfl rfl h fun env hv => ?_
    rw [evaluate]
    exact hv.bind fun v hv => coerce_ensures hP.toOperable c hv
  convert {_ c} _ ty h := by
    refine .of_operand hP.toPervasive rfl rfl h fun env hv => ?_
    rw [evaluate]
    exact hv.bind fun v hv => convertBy_ensures hP.toOperable c hv
  unary op lifted ty h := by
    refine .of_operand hP.toPervasive rfl rfl h fun env hv => ?_
    rw [evaluate]
    exact hv.bind fun v hv => unaryOn_ensures hP.toOperable op lifted hv
  binary op lifted ty hl hr := .binary hP op lifted ty hl hr
  coalesce ty hl hr := .coalesce hP ty hl hr
  choice ty hc ht hf := .choice hP ty hc ht hf
  call b conditional ty h := .call hP b conditional ty h
  field i conditional ty h := by
    refine .of_operand hP.toPervasive rfl rfl h fun env hv => ?_
    rw [evaluate]
    exact hv.bind fun v hv => fieldOf_ensures hP.toPervasive i conditional hv
  index conditional ty h hi := .index hP conditional ty h hi
  query conditional ty hq hs hb ha := .query hP conditional ty hq hs hb ha
  array ty h := by
    refine .of_operands hP.toPervasive rfl h fun env _ _ hvalues => ?_
    rw [evaluate]
    exact sequence_ensures hP.toPervasive (evaluateAll_ensures hvalues)
  record fields h := by
    refine .of_operands hP.toPervasive rfl h fun env _ _ hvalues => ?_
    rw [evaluate]
    exact (evaluateAll_ensures hvalues).bind fun vs hvs => .ok (hP.record_iff.2 hvs)

end Terms

end Eval

/-! ### Stages -/

namespace Stage

open Eval

variable {P : Value → Prop} {Allowed : Term → List Value → Prop} {catalog : Catalog}
  {text : String} {input : Ty} {s : Stage} {element : Value}

theorem evaluate_ensures (hP : Preserved P Allowed) (hc : catalog.Composed)
    (h : build catalog text input = .ok s) (he : P element)
    (hallowed : ∀ part env, Meets s.term [element] part env → Allowed part env) {part : Term}
    {env : List Value} (hpart : Meets s.term [element] part env) :
    Ensures P (evaluate part env) :=
  build_hereditary (keeps_hereditary hP) hc h [element] (List.forall_mem_singleton.2 he) hallowed
    part env hpart

end Stage

end Elementwise
