import Elementwise.Proofs.Simulation.Term

/-!
Two runs of typing whose arguments are typed into related terms type calls of all kinds into related
terms.  The one decision of typing that is not made by types is whether a constant pattern is a
regular expression.  A simulation therefore comes with a condition on calls, and the second run has
to follow the first only to terms of which every call meets it.
-/

namespace Elementwise

namespace Typing

open Term (callsAll)

/-- A congruence with a condition on the calls that take a pattern: under it the pattern is good
after the relation if it was before. -/
structure Simulation extends Congruence where
  admits : Nat → Term.Call → Prop
  admits_deeper {d : Nat} {c : Term.Call} (h : admits d c.deeper) : admits (d + 1) c
  pattern {d : Nat} {b : Builtin} {args args' : List Term} {offset : Nat}
    (hadmits : b.takesPattern = true → admits d ⟨0, b, args⟩) (h : List.Forall₂ (rel d) args args')
    (hcheck : checkPattern b args offset = .ok ()) : checkPattern b args' offset = .ok ()

namespace Simulation

open Congruence

variable (R : Simulation) {d : Nat} {t t' l l' r r' : Term} {ts ts' : List Term}

/-! ### Terms that are worth following -/

/-- Every call in the term is admitted. -/
def Good (d : Nat) (t : Term) : Prop :=
  ∀ c ∈ t.calls, R.admits d c

def AllGood (d : Nat) (ts : List Term) : Prop :=
  ∀ c ∈ callsAll ts, R.admits d c

variable {R}

theorem Good.of_subset (h : R.Good d t) (hs : t'.calls ⊆ t.calls) : R.Good d t' :=
  fun c hc => h c (hs hc)

theorem Good.left (h : R.Good d t) (hk : KeepsBoth l r t) : R.Good d l :=
  h.of_subset hk.1

theorem Good.right (h : R.Good d t) (hk : KeepsBoth l r t) : R.Good d r :=
  h.of_subset hk.2

theorem allGood_cons : R.AllGood d (t :: ts) ↔ R.Good d t ∧ R.AllGood d ts :=
  List.forall_mem_append

theorem good_of_deeper (h : ∀ c ∈ t.calls.map Term.Call.deeper, R.admits d c) :
    R.Good (d + 1) t :=
  fun c hc => R.admits_deeper (h c.deeper (List.mem_map_of_mem hc))

/-! ### Terms made of others -/

variable {o o' : Typed Term}

/-- A step that makes one term of another, and keeps its calls. -/
theorem bind_follows {f f' : Term → Typed Term} (h : Follows (R.Good d) (R.rel d) o o')
    (keeps : ∀ t, Ensures (t.calls ⊆ ·.calls) (f t))
    (hf : ∀ t t', R.rel d t t' → Follows (R.Good d) (R.rel d) (f t) (f' t')) :
    Follows (R.Good d) (R.rel d) (o >>= f) (o' >>= f') :=
  h.bind (fun t => (keeps t).mono fun _ hs hgood => hgood.of_subset hs) hf

theorem unary_follows (op : UnaryOperator) (offset : Nat)
    (h : Follows (R.Good d) (R.rel d) o o') :
    Follows (R.Good d) (R.rel d) (o >>= fun t => Typing.unary op t offset)
      (o' >>= fun t => Typing.unary op t offset) :=
  bind_follows h
    (fun t => (unary_calls op t offset).mono fun _ hs => hs ▸ List.Subset.refl _)
    fun _ _ ht => .of_alike (unary_alike op offset ht)

theorem binary_follows (op : BinaryOperator) (offset : Nat) {p p' : Typed Term}
    (hl : Follows (R.Good d) (R.rel d) o o') (hr : Follows (R.Good d) (R.rel d) p p') :
    Follows (R.Good d) (R.rel d)
      (do
        let left ← o
        let right ← p
        match op with
        | .coalesce => Typing.coalesce left right offset
        | op => Typing.binary op left right offset)
      (do
        let left ← o'
        let right ← p'
        match op with
        | .coalesce => Typing.coalesce left right offset
        | op => Typing.binary op left right offset) := by
  have hkeeps (l r : Term) : Ensures (KeepsBoth l r) (match op with
      | .coalesce => Typing.coalesce l r offset
      | op => Typing.binary op l r offset) := by
    split
    · exact coalesce_keeps l r offset
    · exact binary_keeps l r op offset
  refine hl.bind (fun l => (Ensures.trivial p).bind fun r _ =>
    (hkeeps l r).mono fun _ hk hgood => hgood.left hk) fun l l' hl => ?_
  refine hr.bind (fun r => (hkeeps l r).mono fun _ hk hgood => hgood.right hk) fun r r' hr => ?_
  split
  · exact .of_alike (coalesce_alike hl hr offset)
  · exact .of_alike (binary_alike hl hr op offset)

theorem conditional_follows (offset : Nat) {p p' q q' : Typed Term}
    (hc : Follows (R.Good d) (R.rel d) o o') (ht : Follows (R.Good d) (R.rel d) p p')
    (hf : Follows (R.Good d) (R.rel d) q q') :
    Follows (R.Good d) (R.rel d)
      (do
        let condition ← o
        if condition.ty ≠ .boolean then
          .error (.typeMismatch .boolean condition.ty offset)
        else
          let whenTrue ← p
          let whenFalse ← q
          let (whenTrue, whenFalse) ← unify whenTrue whenFalse offset
          .ok (.choice condition whenTrue whenFalse whenTrue.ty))
      (do
        let condition ← o'
        if condition.ty ≠ .boolean then
          .error (.typeMismatch .boolean condition.ty offset)
        else
          let whenTrue ← p'
          let whenFalse ← q'
          let (whenTrue, whenFalse) ← unify whenTrue whenFalse offset
          .ok (.choice condition whenTrue whenFalse whenTrue.ty)) := by
  -- a choice keeps the calls of its condition and of both branches
  have hkeeps (c t f : Term) : Ensures
      (fun choice => c.calls ⊆ choice.calls ∧ KeepsBoth t f choice)
      (do
        let (whenTrue, whenFalse) ← unify t f offset
        .ok (.choice c whenTrue whenFalse whenTrue.ty)) := by
    refine (unify_keeps t f offset).bind fun branches hb => .ok ⟨List.subset_append_left _ _, ?_⟩
    rw [KeepsBoth, Term.calls, hb.1, hb.2]
    exact ⟨List.subset_append_of_subset_right _ (List.subset_append_left _ _),
      List.subset_append_of_subset_right _ (List.subset_append_right _ _)⟩
  refine bind_follows hc (fun c => ?_) fun c c' hc => ?_
  · split
    · exact .error
    · exact (Ensures.trivial p).bind fun t _ => (Ensures.trivial q).bind fun f _ =>
        (hkeeps c t f).mono fun _ h => h.1
  · rw [R.ty_eq hc]
    split
    · exact .of_error
    · refine ht.bind (fun t => (Ensures.trivial q).bind fun f _ =>
        (hkeeps c t f).mono fun _ h hgood => hgood.left h.2) fun t t' ht => ?_
      refine hf.bind (fun f => (hkeeps c t f).mono fun _ h hgood => hgood.right h.2)
        fun f f' hf => ?_
      refine .of_alike ((unify_alike ht hf offset).bind fun b b' hb => ?_)
      show Alike _ (.ok (Term.choice c b.1 b.2 b.1.ty)) (.ok (Term.choice c' b'.1 b'.2 b'.1.ty))
      rw [R.ty_eq hb.1]
      exact .ok (R.choice _ hc hb.1 hb.2)

/-! ### Arguments -/

/-- Arguments of which the second is typed, in its scopes, into terms that are related to those of
the first. -/
structure ArgumentFollows (R : Simulation) (d : Nat) (Γ Γ' : List Scope) (a a' : Argument) :
    Prop where
  value : Follows (R.Good d) (R.rel d) (a.value Γ) (a'.value Γ')
  body (item : Ty) :
    Follows (R.Good (d + 1)) (R.rel (d + 1)) (a.body item Γ) (a'.body item Γ')

section Arguments

variable {Γ Γ' : List Scope} {args args' : List Argument}
  (hargs : List.Forall₂ (R.ArgumentFollows d Γ Γ') args args')
include hargs

theorem values_follows :
    Follows (R.AllGood d) (List.Forall₂ (R.rel d)) (values args Γ) (values args' Γ') := by
  unfold values
  induction hargs with
  | nil => exact .ok .nil
  | cons h _ ih =>
      rw [List.mapM_cons, List.mapM_cons]
      refine h.value.bind (fun t => (Ensures.trivial _).bind fun ts _ =>
        .ok fun hgood => (allGood_cons.1 hgood).1) fun t t' ht => ?_
      refine ih.bind (fun ts => .ok fun hgood => (allGood_cons.1 hgood).2) fun ts ts' hts => ?_
      exact .ok (.cons ht hts)

variable {α β : Type} {good : α → Prop} {S : α → β → Prop}

theorem oneArgument_follows (name : Ident) {f : Argument → Typed α} {f' : Argument → Typed β}
    (hf : ∀ a a', R.ArgumentFollows d Γ Γ' a a' → Follows good S (f a) (f' a')) :
    Follows good S (Query.oneArgument name args >>= f) (Query.oneArgument name args' >>= f') := by
  cases hargs with
  | nil => exact .of_error
  | cons h hrest =>
      cases hrest with
      | nil => exact hf _ _ h
      | cons _ _ => exact .of_error

theorem noArgument_follows (name : Ident) {p : Typed α} {p' : Typed β} (h : Follows good S p p') :
    Follows good S (Query.noArgument name args >>= fun _ => p)
      (Query.noArgument name args' >>= fun _ => p') := by
  cases hargs with
  | nil => exact h
  | cons _ _ => exact .of_error

theorem optionalArgument_follows (name : Ident) {f : Option Argument → Typed α}
    {f' : Option Argument → Typed β}
    (hf : ∀ a a', Option.Rel (R.ArgumentFollows d Γ Γ') a a' → Follows good S (f a) (f' a')) :
    Follows good S (Query.optionalArgument name args >>= f)
      (Query.optionalArgument name args' >>= f') := by
  cases hargs with
  | nil => exact hf none none .none
  | cons h hrest =>
      cases hrest with
      | nil => exact hf _ _ (.some h)
      | cons _ _ => exact .of_error

end Arguments

/-! ### Queries -/

section Query

variable {Γ Γ' : List Scope} {arg arg' : Argument} {arg? arg'? : Option Argument}

theorem predicate_follows (item : Ty) (h : R.ArgumentFollows d Γ Γ' arg arg') :
    Follows (R.Good (d + 1)) (R.rel (d + 1)) (Query.predicate Γ item arg)
      (Query.predicate Γ' item arg') := by
  refine bind_follows (h.body item) (fun body => ?_) fun body body' hbody => ?_
  · split
    · exact .ok (List.Subset.refl _)
    · exact .error
  · rw [R.ty_eq hbody]
    split
    · exact .ok hbody
    · exact .of_error

/-- The function of a query is there in both runs or in none. -/
abbrev BodyGood (R : Simulation) (d : Nat) (body : Option Term) : Prop :=
  ∀ b ∈ body, R.Good (d + 1) b

theorem optionalPredicate_follows (item : Ty)
    (h : Option.Rel (R.ArgumentFollows d Γ Γ') arg? arg'?) :
    Follows (R.BodyGood d) (Option.Rel (R.rel (d + 1))) (Query.optionalPredicate Γ item arg?)
      (Query.optionalPredicate Γ' item arg'?) := by
  cases h with
  | none => exact .ok .none
  | some h =>
      exact (predicate_follows item h).map (fun _ hgood => hgood _ rfl) fun _ _ hb => .some hb

theorem selector_follows (item : Ty) (h : Option.Rel (R.ArgumentFollows d Γ Γ') arg? arg'?) :
    Follows (R.Good (d + 1)) (R.rel (d + 1)) (Query.selector Γ item arg?)
      (Query.selector Γ' item arg'?) := by
  cases h with
  | none => exact .ok (R.item d item)
  | some h => exact h.body item

theorem key_follows (item : Ty) (h : Option.Rel (R.ArgumentFollows d Γ Γ') arg? arg'?)
    (name : Ident) (op : QueryOperator) :
    Follows (R.Good (d + 1)) (R.rel (d + 1)) (Query.key Γ item arg? name op)
      (Query.key Γ' item arg'? name op) := by
  refine bind_follows (selector_follows item h) (fun body => ?_) fun body body' hbody => ?_
  · split
    · exact .ok (List.Subset.refl _)
    · exact .error
  · rw [R.ty_eq hbody]
    split
    · exact .ok hbody
    · exact .of_error

theorem operand_follows (target : Ty) (h : R.ArgumentFollows d Γ Γ' arg arg') :
    Follows (R.Good d) (R.rel d) (Query.operand Γ target arg) (Query.operand Γ' target arg') := by
  refine bind_follows h.value (fun value => ?_) fun value value' hvalue => ?_
  · split
    · rename_i hc
      rw [← coerceTo?_calls hc]
      exact .ok (List.Subset.refl _)
    · exact .error
  · have hcoerce := coerceTo?_rel target hvalue
    generalize value.coerceTo? target = c, value'.coerceTo? target = c' at hcoerce
    cases hcoerce with
    | none => exact .of_error
    | some hc => exact .ok hc

theorem addend_follows (item : Ty) (h : Option.Rel (R.ArgumentFollows d Γ Γ') arg? arg'?)
    (name : Ident) (op : QueryOperator) :
    Follows (fun p => R.Good (d + 1) p.2) (fun p p' => p'.1 = p.1 ∧ R.rel (d + 1) p.2 p'.2)
      (Query.addend Γ item arg? name op) (Query.addend Γ' item arg'? name op) := by
  refine (selector_follows item h).bind (fun body => ?_) fun body body' hbody => ?_
  · split
    · exact .error
    · split
      · rename_i hc
        exact .ok fun hgood => hgood.of_subset (coerceTo?_calls hc ▸ List.Subset.refl _)
      · exact .error
  · rw [R.ty_eq hbody]
    cases Query.aggregateKind? body.ty with
    | none => exact .of_error
    | some k =>
        have hcoerce := coerceTo?_rel (.numeric k) hbody
        dsimp only
        generalize body.coerceTo? _ = c, body'.coerceTo? _ = c' at hcoerce
        cases hcoerce with
        | none => exact .of_error
        | some hc => exact .ok ⟨rfl, hc⟩

/-- The same query with related parts. -/
structure PlanRel (R : Simulation) (d : Nat) (p p' : Query.Plan) : Prop where
  query : p'.query = p.query
  body : Option.Rel (R.rel (d + 1)) p.body p'.body
  args : List.Forall₂ (R.rel d) p.args p'.args
  ty : p'.ty = p.ty

structure PlanGood (R : Simulation) (d : Nat) (p : Query.Plan) : Prop where
  body : R.BodyGood d p.body
  args : R.AllGood d p.args

theorem plan_follows {args args' : List Argument} (item : Ty) (op : QueryOperator) (name : Ident)
    (hargs : List.Forall₂ (R.ArgumentFollows d Γ Γ') args args') :
    Follows (R.PlanGood d) (R.PlanRel d) (Query.plan Γ item op name args)
      (Query.plan Γ' item op name args') := by
  cases op with
  | select =>
      refine oneArgument_follows hargs name fun a a' h => ?_
      refine (h.body item).bind (fun b => .ok fun hgood => hgood.body b rfl) fun b b' hb => ?_
      exact .ok ⟨rfl, .some hb, .nil, congrArg Ty.sequence (R.ty_eq hb)⟩
  | filter | all =>
      refine oneArgument_follows hargs name fun a a' h => ?_
      refine (predicate_follows item h).bind (fun b => .ok fun hgood => hgood.body b rfl)
        fun b b' hb => ?_
      exact .ok ⟨rfl, .some hb, .nil, rfl⟩
  | orderBy | orderByDescending =>
      refine oneArgument_follows hargs name fun a a' h => ?_
      refine (key_follows item (.some h) name _).bind (fun b => .ok fun hgood => hgood.body b rfl)
        fun b b' hb => ?_
      exact .ok ⟨rfl, .some hb, .nil, rfl⟩
  | toArray | distinct | reverse =>
      exact noArgument_follows hargs name (.ok ⟨rfl, .none, .nil, rfl⟩)
  | count | any | first | firstOrDefault | last | lastOrDefault =>
      refine optionalArgument_follows hargs name fun a a' h => ?_
      refine (optionalPredicate_follows item h).bind (fun b => .ok fun hgood => hgood.body)
        fun b b' hb => ?_
      exact .ok ⟨rfl, hb, .nil, rfl⟩
  | sum | average =>
      refine optionalArgument_follows hargs name fun a a' h => ?_
      refine (addend_follows item h name _).bind (fun b => .ok fun hgood => hgood.body _ rfl)
        fun b b' hb => ?_
      exact .ok ⟨by rw [hb.1], .some hb.2, .nil, by rw [hb.1]⟩
  | min | max =>
      refine optionalArgument_follows hargs name fun a a' h => ?_
      refine (key_follows item h name _).bind (fun b => .ok fun hgood => hgood.body b rfl)
        fun b b' hb => ?_
      exact .ok ⟨rfl, .some hb, .nil, R.ty_eq hb⟩
  | contains | take | skip =>
      refine oneArgument_follows hargs name fun a a' h => ?_
      refine (operand_follows _ h).bind
        (fun t => .ok fun hgood => (allGood_cons.1 hgood.args).1) fun t t' ht => ?_
      exact .ok ⟨rfl, .none, .cons ht .nil, rfl⟩

theorem planGood_of_good {source : Term} {p : Query.Plan} {conditional : Bool} {ty : Ty}
    (h : R.Good d (.query p.query source p.body p.args conditional ty)) : R.PlanGood d p := by
  cases p with
  | mk q body args planTy =>
      cases body with
      | none =>
          obtain ⟨-, hargs⟩ := List.forall_mem_append.1 h
          exact ⟨nofun, hargs⟩
      | some body =>
          obtain ⟨-, hrest⟩ := List.forall_mem_append.1 h
          obtain ⟨hbody, hargs⟩ := List.forall_mem_append.1 hrest
          refine ⟨fun b hb => ?_, hargs⟩
          obtain rfl := Option.some.inj hb
          exact good_of_deeper hbody

theorem query_follows {args args' : List Argument} (item : Ty) (op : QueryOperator) (name : Ident)
    (conditional : Bool) (ht : R.rel d t t')
    (hargs : List.Forall₂ (R.ArgumentFollows d Γ Γ') args args') :
    Follows (R.Good d) (R.rel d) (Typing.query t item op name args conditional Γ)
      (Typing.query t' item op name args' conditional Γ') := by
  refine (plan_follows item op name hargs).bind (fun p => .ok planGood_of_good) fun p p' hp => ?_
  rw [hp.ty, hp.query]
  exact .ok (R.query _ _ _ ht hp.body hp.args)

end Query

end Simulation

end Typing

end Elementwise
