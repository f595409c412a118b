import Elementwise.Proofs.Simulation.Query

/-!
Two runs of typing side by side: members, calls, indexing, conversions and literals.
-/

namespace Elementwise

namespace Typing

open Term (callsAll)

namespace Simulation

open Congruence

variable {R : Simulation} {d : Nat} {t t' : Term} {ts ts' : List Term}

/-! ### Members that are not called -/

theorem property?_rel (lookup : Ty) (name : Ident) (conditional : Bool) (h : R.rel d t t') :
    Option.Rel (Alike (R.rel d)) (property? t lookup name conditional)
      (property? t' lookup name conditional) := by
  unfold property?
  dsimp only
  split
  · exact .some (.ok (R.field _ _ _ h))
  · split
    · rename_i hfind
      exact .some (.ok (R.call _ _ (R.member (Ty.offers_of_find?_property hfind)) (.cons h .nil)))
    · exact .some (.ok (R.constant _ _ _))
    · exact .some .error
    · exact .none

theorem bindProperty_follows (name : Ident) (np : Bool) (h : R.rel d t t') :
    Follows (R.Good d) (R.rel d) (bindProperty t name np) (bindProperty t' name np) := by
  unfold bindProperty
  rw [R.ty_eq h]
  dsimp only
  have hvalue : Option.Rel (Alike (R.rel d))
      (if isConditional np t.ty then property? t t.ty.underlying name true else none)
      (if isConditional np t.ty then property? t' t.ty.underlying name true else none) := by
    split
    · exact property?_rel _ name true h
    · exact .none
  have hself := property?_rel t.ty name false h
  generalize (if isConditional np t.ty then property? t t.ty.underlying name true else none) = v,
    (if isConditional np t.ty then property? t' t.ty.underlying name true else none) = v' at hvalue
  generalize property? t t.ty name false = s, property? t' t.ty name false = s' at hself
  cases hvalue with
  | some hv => exact .of_alike hv
  | none =>
      cases hself with
      | some hs => exact .of_alike hs
      | none => exact .of_error

theorem bindConstant_follows (s : LibrarySymbol) (name : Ident) :
    Follows (R.Good d) (R.rel d) (bindConstant s name) (bindConstant s name) := by
  unfold bindConstant
  split
  · exact .ok (R.constant d _ _)
  · exact .of_error
  · exact .of_error
  · exact .of_error

/-- What follows a dot belongs to a symbol or to a value.  The second run takes it for the same, or
the first run fails since it finds neither. -/
theorem symbol_follows {s? s'? : Option LibrarySymbol} {o o' : Typed Term}
    {f f' : LibrarySymbol → Typed Term} {g g' : Term → Typed Term}
    (hg : Follows (R.Good d) (R.rel d) (o >>= g) (o' >>= g')) :
    s'? = s? ∨ s? = none ∧ (∀ t, o ≠ .ok t) →
    (∀ s, s? = some s → Follows (R.Good d) (R.rel d) (f s) (f' s)) →
    Follows (R.Good d) (R.rel d)
      (match s? with
        | some s => f s
        | none => o >>= g)
      (match s'? with
        | some s => f' s
        | none => o' >>= g') := by
  rintro (rfl | ⟨rfl, herror⟩) hf
  · cases s'? with
    | some s => exact hf s rfl
    | none => exact hg
  · cases o with
    | ok t => exact absurd rfl (herror t)
    | error e => exact .of_error

/-! ### Calls -/

theorem overloadedCall_follows (overloads : List Signature) (name : Ident)
    (h : List.Forall₂ (R.rel d) ts ts') :
    Follows
      (fun call => call.1 ∈ overloads → call.1.builtin.takesPattern = true →
        R.admits d ⟨0, call.1.builtin, call.2⟩)
      (fun call call' => call.1 ∈ overloads ∧ call'.1 = call.1 ∧
        List.Forall₂ (R.rel d) call.2 call'.2)
      (overloadedCall overloads ts name) (overloadedCall overloads ts' name) := by
  intro call hcall hgood
  have hresolve := resolve_alike overloads name h
  unfold overloadedCall at hcall ⊢
  generalize resolve overloads ts name = r, resolve overloads ts' name = r' at hresolve hcall
  cases hresolve with
  | error => cases hcall
  | @ok c c' hc =>
      obtain ⟨hmem, hs, hargs⟩ := hc
      change (checkPattern c.1.builtin c.2 name.offset >>= fun _ => .ok (c.1, c.2)) = .ok call
        at hcall
      cases hcheck : checkPattern c.1.builtin c.2 name.offset with
      | error e =>
          rw [hcheck] at hcall
          cases hcall
      | ok =>
          rw [hcheck] at hcall
          obtain rfl := Except.ok.inj hcall
          refine ⟨c', ?_, hmem, hs, hargs⟩
          change (checkPattern c'.1.builtin c'.2 name.offset >>= fun _ => .ok (c'.1, c'.2)) = _
          rw [hs, R.pattern (hgood hmem) hargs hcheck, ← hs]
          rfl

theorem exists_of_method_eq_ok {members : List Member} {type : String} {name : Ident}
    {overloads : List Signature} (h : method members type name = .ok overloads) :
    ∃ m ∈ members, m.signatures = overloads := by
  unfold method at h
  split at h
  · rename_i hfind
    cases h
    exact ⟨_, List.mem_of_find?_eq_some hfind, rfl⟩
  · cases h
  · cases h

section Calls

variable {Γ Γ' : List Scope} {args args' : List Argument}
  (hargs : List.Forall₂ (R.ArgumentFollows d Γ Γ') args args')
include hargs

/-- A term that is made of an overload and its arguments. -/
theorem overload_follows (overloads : List Signature) (name : Ident)
    (make make' : Signature → List Term → Term)
    (hgood : ∀ s ts, R.Good d (make s ts) → R.AllGood d ts ∧
      (s ∈ overloads → s.builtin.takesPattern = true → R.admits d ⟨0, s.builtin, ts⟩))
    (hrel : ∀ s ∈ overloads, ∀ ts ts', List.Forall₂ (R.rel d) ts ts' →
      R.rel d (make s ts) (make' s ts')) :
    Follows (R.Good d) (R.rel d)
      (do
        let (s, ts) ← overloadedCall overloads (← values args Γ) name
        .ok (make s ts))
      (do
        let (s, ts) ← overloadedCall overloads (← values args' Γ') name
        .ok (make' s ts)) := by
  refine (values_follows hargs).bind (fun ts => ?_) fun ts ts' hts => ?_
  · refine (overloadedCall_keeps overloads ts name).bind fun call hcall => .ok fun h => ?_
    rw [AllGood, ← hcall]
    exact (hgood _ _ h).1
  · refine (overloadedCall_follows overloads name hts).bind
      (fun call => .ok fun h => (hgood _ _ h).2) fun call call' ⟨hmem, hs, hcall⟩ => ?_
    show Follows _ _ (.ok (make call.1 call.2)) (.ok (make' call'.1 call'.2))
    rw [hs]
    exact .ok (hrel _ hmem _ _ hcall)

theorem bindStaticCall_follows {s : LibrarySymbol} (hs : ∀ b, s.Offers b → R.offered b)
    (name : Ident) :
    Follows (R.Good d) (R.rel d) (bindStaticCall s name args Γ) (bindStaticCall s name args' Γ') := by
  unfold bindStaticCall
  cases hm : method s.members s.name name with
  | error e => exact .of_error
  | ok overloads =>
      obtain ⟨m, hmem, rfl⟩ := exists_of_method_eq_ok hm
      refine overload_follows hargs m.signatures name
        (fun o ts => .call o.builtin ts false o.result)
        (fun o ts => .call o.builtin ts false o.result) (fun o ts h => ?_) fun o ho ts ts' hts => ?_
      · obtain ⟨hcall, hrest⟩ := List.forall_mem_cons.1 h
        exact ⟨hrest, fun _ _ => hcall⟩
      · exact R.call _ _ (hs _ ⟨m, hmem, o, ho, rfl⟩) hts

omit hargs in
theorem withReceiver_rel (s : Signature) (ht : R.rel d t t') (hts : List.Forall₂ (R.rel d) ts ts') :
    List.Forall₂ (R.rel d) (withReceiver t s ts) (withReceiver t' s ts') := by
  unfold withReceiver
  have hempty : ts'.isEmpty = ts.isEmpty := by
    cases hts <;> rfl
  rw [hempty]
  split
  · exact .cons ht (.cons (R.constant _ _ _) .nil)
  · exact .cons ht hts

theorem bindInstanceCall_follows (name : Ident) (np : Bool) (ht : R.rel d t t') :
    Follows (R.Good d) (R.rel d) (bindInstanceCall t name args np Γ)
      (bindInstanceCall t' name args' np Γ') := by
  unfold bindInstanceCall
  rw [R.ty_eq ht]
  dsimp only
  generalize (isConditional np t.ty && (Member.find? (memberType (isConditional np t.ty)
    t.ty).members name.name).isSome) = conditional
  cases hm : method (memberType conditional t.ty).members t.ty.name name with
  | error e => exact .of_error
  | ok overloads =>
      obtain ⟨m, hmem, rfl⟩ := exists_of_method_eq_ok hm
      have hoffers : ∀ s ∈ m.signatures, (memberType conditional t.ty).Offers s.builtin :=
        fun s hs => Ty.offers_of_mem_signatures hmem hs
      refine overload_follows hargs m.signatures name
        (fun s ts => .call s.builtin (withReceiver t s ts) conditional
          (resultType conditional s.result))
        (fun s ts => .call s.builtin (withReceiver t' s ts) conditional
          (resultType conditional s.result)) (fun s ts h => ⟨fun c hc => ?_, fun hs hp => ?_⟩)
        fun s hs ts ts' hts => ?_
      · refine (List.forall_mem_cons.1 h).2 c (callsAll_subset_withReceiver t s ts ?_)
        exact List.mem_append_right _ hc
      · rw [(hoffers s hs).takesPattern_eq_false] at hp
        cases hp
      · exact R.call _ _ (R.member (hoffers s hs)) (withReceiver_rel s ht hts)

theorem bindMethodCall_follows (name : Ident) (np : Bool) (ht : R.rel d t t') :
    Follows (R.Good d) (R.rel d) (bindMethodCall t name args np Γ)
      (bindMethodCall t' name args' np Γ') := by
  unfold bindMethodCall
  rw [R.ty_eq ht]
  dsimp only
  split
  · exact query_follows _ _ name _ ht hargs
  · exact bindInstanceCall_follows hargs name np ht

/-! ### Indexing and conversions -/

theorem bindIndex_follows (offset : Nat) (np : Bool) (ht : R.rel d t t') :
    Follows (R.Good d) (R.rel d) (bindIndex t args offset np Γ)
      (bindIndex t' args' offset np Γ') := by
  unfold bindIndex
  rw [R.ty_eq ht]
  dsimp only
  cases indexed? (memberType (isConditional np t.ty) t.ty) with
  | none => exact .of_error
  | some item =>
      cases hargs with
      | nil => exact .of_error
      | cons h hrest =>
          cases hrest with
          | cons _ _ => exact .of_error
          | nil =>
              refine bind_follows h.value (fun i => ?_) fun i i' hi => ?_
              · split
                · rename_i hc
                  refine .ok (List.Subset.trans ?_ (List.subset_append_right _ _))
                  rw [coerceTo?_calls hc]
                  exact List.Subset.refl _
                · exact .error
              · have hcoerce := coerceTo?_rel .int32 hi
                generalize i.coerceTo? .int32 = c, i'.coerceTo? .int32 = c' at hcoerce
                cases hcoerce with
                | none => exact .of_error
                | some hc => exact .ok (R.index _ _ ht hc)

theorem bindConversion_follows (target : Ty) (name : Ident) :
    Follows (R.Good d) (R.rel d) (bindConversion target name args Γ)
      (bindConversion target name args' Γ') := by
  cases hargs with
  | nil => exact .of_error
  | cons h hrest =>
      cases hrest with
      | cons _ _ => exact .of_error
      | nil =>
          refine bind_follows h.value (fun t => ?_) fun t t' ht => ?_
          · exact (convertTo_calls t target name.offset).mono fun _ hc => hc ▸ List.Subset.refl _
          · exact .of_alike (convertTo_alike target name.offset ht)

end Calls

/-! ### Literals of arrays and records -/

theorem bindArray_alike (offset : Nat) (h : List.Forall₂ (R.rel d) ts ts') :
    Alike (R.rel d) (bindArray ts offset) (bindArray ts' offset) := by
  unfold bindArray
  dsimp only
  cases h with
  | nil => exact .error
  | @cons first first' others others' hfirst hothers =>
      dsimp only
      rw [isNullLiteral_eq hfirst, R.ty_eq hfirst]
      split
      · exact .error
      · refine (Alike.mapM (S := R.rel d) hothers fun item item' hitem => ?_).bind
          fun is is' his => .ok (R.array _ (.cons hfirst his))
        have hcoerce := coerceTo?_rel first.ty hitem
        generalize item.coerceTo? first.ty = c, item'.coerceTo? first.ty = c' at hcoerce
        cases hcoerce with
        | none => exact .error
        | some hc => exact .ok hc

theorem bindArray_follows (offset : Nat) {o o' : Typed (List Term)}
    (h : Follows (R.AllGood d) (List.Forall₂ (R.rel d)) o o') :
    Follows (R.Good d) (R.rel d) (o >>= fun ts => bindArray ts offset)
      (o' >>= fun ts => bindArray ts offset) := by
  refine h.bind (fun ts => ?_) fun ts ts' hts => .of_alike (bindArray_alike offset hts)
  refine (bindArray_keeps ts offset).mono fun t hc hgood => ?_
  rw [AllGood, hc]
  exact hgood

/-- The fields of two record literals: the same names and types, and related values. -/
def FieldsRel (R : Simulation) (d : Nat) (m m' : List (String × Ty) × List Term) : Prop :=
  m'.1 = m.1 ∧ List.Forall₂ (R.rel d) m.2 m'.2

theorem field_follows (name : String) {o o' : Typed Term}
    {p p' : Typed (List (String × Ty) × List Term)} (h : Follows (R.Good d) (R.rel d) o o')
    (hrest : Follows (fun m => R.AllGood d m.2) (R.FieldsRel d) p p') :
    Follows (fun m => R.AllGood d m.2) (R.FieldsRel d)
      (do
        let value ← o
        let value := if value.isNullLiteral then value.coerce .nullLiteral .object else value
        let (fields, values) ← p
        .ok ((name, value.ty) :: fields, value :: values))
      (do
        let value ← o'
        let value := if value.isNullLiteral then value.coerce .nullLiteral .object else value
        let (fields, values) ← p'
        .ok ((name, value.ty) :: fields, value :: values)) := by
  refine h.bind (fun t => (Ensures.trivial p).bind fun m _ => .ok fun hgood => ?_)
    fun t t' ht => ?_
  · have hvalue := (allGood_cons.1 hgood).1
    split at hvalue
    · exact hvalue
    · exact hvalue
  · have hvalue : R.rel d (if t.isNullLiteral then t.coerce .nullLiteral .object else t)
        (if t'.isNullLiteral then t'.coerce .nullLiteral .object else t') := by
      rw [isNullLiteral_eq ht]
      split
      · exact R.coerce _ _ ht
      · exact ht
    refine hrest.bind (fun m => .ok fun hgood => (allGood_cons.1 hgood).2) fun m m' hm => ?_
    dsimp only
    rw [R.ty_eq hvalue]
    exact .ok ⟨congrArg (List.cons _) hm.1, .cons hvalue hm.2⟩

theorem record_follows {p p' : Typed (List (String × Ty) × List Term)}
    (h : Follows (fun m => R.AllGood d m.2) (R.FieldsRel d) p p') :
    Follows (R.Good d) (R.rel d) (p >>= fun m => .ok (.record m.1 m.2))
      (p' >>= fun m => .ok (.record m.1 m.2)) := by
  refine h.bind (fun m => .ok fun hgood => hgood) fun m m' hm => ?_
  rw [hm.1]
  exact .ok (R.record _ hm.2)

end Simulation

end Typing

end Elementwise
