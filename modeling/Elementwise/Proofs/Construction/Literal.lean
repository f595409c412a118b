import Elementwise.Proofs.Exact.Coercion
import Elementwise.Proofs.LetterCase.Text
import Elementwise.Proofs.Renaming.Context
import Mathlib.Data.List.Nodup

/-!
Record and array literals give back what was put in.  A member of a record literal is found by its
name in any letter case and has the value of the expression it was given; an item of an array literal
has the value of the element in its place, converted to the type of the first one.  Elements are
evaluated first to last, all of them, and the first fault among them is the result.
-/

namespace Elementwise

namespace Text

/-- Names that differ in the case of ASCII letters only have one key. -/
theorem fold_eq_of_sameIgnoringAsciiCase {s t : String} (h : sameIgnoringAsciiCase s t = true) :
    fold s = fold t := by
  rw [sameIgnoringAsciiCase, beq_iff_eq] at h
  rw [← fold_lowerAscii s, ← fold_lowerAscii t, lowerAscii, lowerAscii, h]

end Text

namespace Eval

variable {t : Term} {ts : List Term} {env vs : List Value} {v : Value} {f : Fault}

/-! ### Lists of terms -/

/-- The first fault among the outcomes of terms, if one of them faults. -/
def firstFault? (ts : List Term) (env : List Value) : Option Fault :=
  ts.findSome? fun t =>
    match evaluate t env with
    | .error f => some f
    | .ok _ => none

theorem firstFault?_cons_ok (h : evaluate t env = .ok v) (ts : List Term) :
    firstFault? (t :: ts) env = firstFault? ts env := by
  rw [firstFault?, List.findSome?_cons, h]
  rfl

theorem firstFault?_cons_error (h : evaluate t env = .error f) (ts : List Term) :
    firstFault? (t :: ts) env = some f := by
  rw [firstFault?, List.findSome?_cons, h]

theorem evaluateAll_of_firstFault? (h : firstFault? ts env = some f) :
    evaluateAll ts env = .error f := by
  induction ts with
  | nil => cases h
  | cons t ts ih =>
      rw [evaluateAll]
      cases ht : evaluate t env with
      | error f' =>
          rw [firstFault?_cons_error ht] at h
          cases h
          rfl
      | ok v =>
          rw [firstFault?_cons_ok ht] at h
          rw [ok_bind, ih h]
          rfl

theorem evaluateAll_of_forall₂ (h : List.Forall₂ (fun t v => evaluate t env = .ok v) ts vs) :
    evaluateAll ts env = .ok vs := by
  induction h with
  | nil => rfl
  | cons ht _ ih =>
      rw [evaluateAll, ht, ok_bind, ih]
      rfl

/-- Terms of which none faults have a value each. -/
theorem exists_values (h : firstFault? ts env = none) :
    ∃ vs, List.Forall₂ (fun t v => evaluate t env = .ok v) ts vs := by
  induction ts with
  | nil => exact ⟨[], .nil⟩
  | cons t ts ih =>
      cases ht : evaluate t env with
      | error f =>
          rw [firstFault?_cons_error ht] at h
          cases h
      | ok v =>
          rw [firstFault?_cons_ok ht] at h
          obtain ⟨vs, hvs⟩ := ih h
          exact ⟨v :: vs, .cons ht hvs⟩

/-! ### Items by position -/

section Position

variable {items : List Value} {position : Term} {ty item : Ty} {w : Number.Word .int32}

theorem elementAt_of_getElem? {k : Nat} (hw : w.val = k) (hk : items[k]? = some v) :
    elementAt (.array items) (.number (.word .int32 w)) = .ok v := by
  have hnonneg : ¬ w.val < 0 := by omega
  have hnat : w.val.toNat = k := by omega
  simp only [elementAt, if_neg hnonneg, hnat, hk]

theorem elementAt_outside (hw : w.val < 0 ∨ items.length ≤ w.val) :
    elementAt (.array items) (.number (.word .int32 w)) =
      .error (.indexOutOfRange w.val items.length) := by
  have hnone : (if w.val < 0 then none else items[w.val.toNat]?) = none := by
    split
    · rfl
    · rw [List.getElem?_eq_none_iff]
      omega
  simp only [elementAt, hnone]

theorem evaluate_index_of_firstFault? (h : firstFault? ts env = some f) :
    evaluate (.index (.array ts ty) position false item) env = .error f := by
  rw [evaluate, evaluate, evaluateAll_of_firstFault? h]
  rfl

theorem evaluate_index_of_forall₂ (h : List.Forall₂ (fun t v => evaluate t env = .ok v) ts vs)
    (hp : evaluate position env = .ok v) :
    evaluate (.index (.array ts ty) position false item) env = elementAt (.array vs) v := by
  rw [evaluate, evaluate, evaluateAll_of_forall₂ h, hp]
  rfl

end Position

end Eval

open Eval

namespace Typing

variable {catalog : Catalog} {scopes : List Scope} {members : List (Ident × Expr)}
  {ts : List Term} {t : Term}

/-! ### Records -/

/-- The value of a member, which is an object if it has the type of `null`. -/
def asMember (t : Term) : Term :=
  if t.isNullLiteral then t.coerce .nullLiteral .object else t

theorem asMember_ty (t : Term) : (asMember t).ty = if t.ty = .null then .object else t.ty := by
  simp only [asMember, Term.isNullLiteral, decide_eq_true_eq]
  split <;> rfl

theorem evaluate_asMember (t : Term) (env : List Value) :
    evaluate (asMember t) env = evaluate t env := by
  rw [asMember]
  split
  · rw [evaluate]
    cases evaluate t env <;> rfl
  · rfl

theorem firstFault?_asMember (ts : List Term) (env : List Value) :
    firstFault? (ts.map asMember) env = firstFault? ts env := by
  rw [firstFault?, firstFault?, List.findSome?_map]
  simp only [Function.comp_def, evaluate_asMember]

/-- The fields of a record literal, by the terms of its members. -/
def fieldsOf (members : List (Ident × Expr)) (ts : List Term) : List (String × Ty) :=
  List.zipWith (fun m t => (m.1.name, (asMember t).ty)) members ts

theorem bindMembers_eq_ok {given : List String}
    (h : List.Forall₂ (fun m t => bind catalog m.2 false scopes = .ok t) members ts)
    (hkeys : (members.map (·.1.key)).Nodup) (hgiven : ∀ m ∈ members, m.1.key ∉ given) :
    bindMembers catalog members given scopes = .ok (fieldsOf members ts, ts.map asMember) := by
  -- every member adds its key to those given, which the keys of the others have to avoid
  induction h generalizing given with
  | nil => rfl
  | @cons m t members ts hm _ ih =>
      obtain ⟨name, e⟩ := m
      obtain ⟨hname, hmembers⟩ := List.forall_mem_cons.1 hgiven
      rw [List.map_cons, List.nodup_cons] at hkeys
      have hnew : given.contains name.key = false := by
        rw [← Bool.not_eq_true, List.contains_iff_mem]
        exact hname
      have hrest : ∀ m ∈ members, m.1.key ∉ name.key :: given := by
        intro m hmem
        rw [List.mem_cons, not_or]
        refine ⟨fun heq => hkeys.1 ?_, hmembers m hmem⟩
        exact heq ▸ List.mem_map_of_mem hmem
      rw [bindMembers, if_neg (by rw [hnew]; exact Bool.false_ne_true), hm, ok_bind,
        ih hkeys.2 hrest]
      rfl

theorem keys_fieldsOf
    (h : List.Forall₂ (fun m t => bind catalog m.2 false scopes = .ok t) members ts) :
    (fieldsOf members ts).map (fun field => Text.fold field.1) = members.map (·.1.key) := by
  induction h with
  | nil => rfl
  | cons _ _ ih => exact congrArg (List.cons _) ih

/-- Among names of different keys, each finds its own place, in whatever spelling. -/
theorem fieldIndex?_of_nodup {fields : List (String × Ty)} {k : Nat} {name : String}
    (hkeys : (fields.map fun field => Text.fold field.1).Nodup)
    (hk : (fields.map fun field => Text.fold field.1)[k]? = some (Text.fold name)) :
    Ty.fieldIndex? fields name = some k := by
  have hidx : Ty.fieldIndex? fields name =
      (fields.map fun field => Text.fold field.1).idxOf? (Text.fold name) := by
    rw [Ty.fieldIndex?, List.idxOf?, List.findIdx?_map]
    rfl
  obtain ⟨hlt, hget⟩ := List.getElem?_eq_some_iff.1 hk
  rw [hidx, List.idxOf?_eq_some_iff]
  refine ⟨hlt, hget, fun j hj heq => hj.ne ?_⟩
  exact hkeys.getElem_inj_iff.1 (heq.trans hget.symm)

theorem bindProperty_field {receiver : Term} {fields : List (String × Ty)} {name : Ident}
    {k : Nat} {field : String × Ty} (hty : receiver.ty = .record fields)
    (hindex : Ty.fieldIndex? fields name.name = some k) (hfield : fields[k]? = some field) :
    bindProperty receiver name false = .ok (.field receiver k false field.2) := by
  have hproperty : property? receiver receiver.ty name false =
      some (.ok (.field receiver k false field.2)) := by
    simp only [property?, hty, hindex, hfield, Option.bind_some, Option.map_some]
    rfl
  rw [bindProperty, isConditional, hproperty]
  rfl

/-- The term of a record literal. -/
def recordOf (members : List (Ident × Expr)) (ts : List Term) : Term :=
  .record (fieldsOf members ts) (ts.map asMember)

theorem evaluate_recordOf (members : List (Ident × Expr)) {env vs : List Value}
    (h : List.Forall₂ (fun t v => evaluate t env = .ok v) ts vs) :
    evaluate (recordOf members ts) env = .ok (.record (fieldsOf members ts) vs) := by
  have hmembers : List.Forall₂ (fun t v => evaluate t env = .ok v) (ts.map asMember) vs := by
    simpa only [List.forall₂_map_left_iff, evaluate_asMember] using h
  rw [recordOf, evaluate, evaluateAll_of_forall₂ hmembers]
  rfl

/-- A member of a record literal has the value of the expression it was given, unless one of the
expressions faults. -/
theorem exists_bind_member {k : Nat} {m : Ident × Expr} {name : Ident} {n : Nat}
    (h : List.Forall₂ (fun m t => bind catalog m.2 false scopes = .ok t) members ts)
    (hkeys : (members.map (·.1.key)).Nodup) (hk : members[k]? = some m)
    (ht : ts[k]? = some t) (hname : Text.fold name.name = m.1.key) :
    ∃ t', bind catalog (.member (.record members n) name) false scopes = .ok t' ∧
      t'.ty = (if t.ty = .null then .object else t.ty) ∧
      ∀ env, evaluate t' env =
        match firstFault? ts env with
        | some f => .error f
        | none => evaluate t env := by
  have hfields := keys_fieldsOf h
  have hindex : Ty.fieldIndex? (fieldsOf members ts) name.name = some k := by
    refine fieldIndex?_of_nodup (by rwa [hfields]) ?_
    rw [hfields, List.getElem?_map, hk, hname]
    rfl
  have hfield : (fieldsOf members ts)[k]? = some (m.1.name, (asMember t).ty) := by
    rw [fieldsOf, List.getElem?_zipWith, hk, ht]
  have hrecord : bind catalog (.record members n) false scopes = .ok (recordOf members ts) := by
    rw [bind, bindMembers_eq_ok h hkeys fun _ _ => List.not_mem_nil]
    rfl
  have hbind : bind catalog (.member (.record members n) name) false scopes =
      .ok (.field (recordOf members ts) k false (asMember t).ty) := by
    rw [bind, symbol?_eq_none rfl, hrecord]
    exact bindProperty_field rfl hindex hfield
  refine ⟨_, hbind, asMember_ty t, fun env => ?_⟩
  rw [evaluate]
  cases hfault : firstFault? ts env with
  | some f =>
      rw [recordOf, evaluate,
        evaluateAll_of_firstFault? ((firstFault?_asMember ts env).trans hfault)]
      rfl
  | none =>
      obtain ⟨vs, hvs⟩ := exists_values hfault
      obtain ⟨v, hv, hvt⟩ := exists_partner hvs ht
      rw [evaluate_recordOf members hvs, ok_bind, fieldOf, hv, hvt]

/-! ### Arrays -/

/-- The implicit conversion from one type to another makes the second value of the first. -/
def ConvertsTo (source target : Ty) (v u : Value) : Prop :=
  ∃ steps, implicitSteps? source target = some steps ∧ run steps v = .ok u

theorem forall₂_of_mapM_eq_ok {ε α β : Type} {f : α → Except ε β} {as : List α} {bs : List β}
    (h : as.mapM f = .ok bs) : List.Forall₂ (fun a b => f a = .ok b) as bs := by
  induction as generalizing bs with
  | nil =>
      cases h
      exact .nil
  | cons a as ih =>
      rw [List.mapM_cons] at h
      obtain ⟨b, hb, h⟩ := bind_eq_ok h
      obtain ⟨bs', hbs, h⟩ := bind_eq_ok h
      cases h
      exact .cons hb (ih hbs)

/-- As a value, an argument is typed like the expression by itself. -/
theorem exists_argument (catalog : Catalog) (e : Expr) (es : List Expr) :
    ∃ arg, arguments catalog (e :: es) = arg :: arguments catalog es ∧
      ∀ scopes, arg.value scopes = bind catalog e false scopes := by
  rcases lambda_or e with ⟨param, body, rfl⟩ | he
  · refine ⟨_, by rw [arguments], fun scopes => ?_⟩
    rw [bind]
  · exact ⟨_, arguments_cons he es, fun _ => rfl⟩

theorem values_arguments (es : List Expr) :
    values (arguments catalog es) scopes = es.mapM fun e => bind catalog e false scopes := by
  induction es with
  | nil =>
      rw [arguments]
      rfl
  | cons e es ih =>
      obtain ⟨arg, harg, hvalue⟩ := exists_argument catalog e es
      rw [values] at ih ⊢
      rw [harg, List.mapM_cons, List.mapM_cons, hvalue, ih]

theorem bindArray_eq_ok {n : Nat} (h : bindArray ts n = .ok t) :
    ∃ first cs, ts.head? = some first ∧
      List.Forall₂ (fun t c => t.coerceTo? first.ty = some c) ts cs ∧
      t = .array cs (.array first.ty) := by
  cases ts with
  | nil => cases h
  | cons first others =>
      rw [bindArray] at h
      split at h
      · cases h
      obtain ⟨cs, hcs, h⟩ := bind_eq_ok h
      cases h
      refine ⟨first, first :: cs, rfl, .cons (coerceTo?_self first) ?_, rfl⟩
      refine (forall₂_of_mapM_eq_ok hcs).imp fun item c hc => ?_
      split at hc
      · cases hc
        assumption
      · cases hc

theorem bindIndex_eq_ok {receiver : Term} {item : Ty} {args : List Argument} {n : Nat}
    (hty : receiver.ty = .array item) (h : bindIndex receiver args n false scopes = .ok t) :
    ∃ arg index position, args = [arg] ∧ arg.value scopes = .ok index ∧
      index.coerceTo? .int32 = some position ∧ t = .index receiver position false item := by
  simp only [bindIndex, isConditional, memberType, hty] at h
  split at h
  · cases h
  · rename_i arg hitem
    obtain ⟨index, hindex, h⟩ := bind_eq_ok h
    split at h
    · cases h
      cases hitem
      exact ⟨arg, index, _, rfl, hindex, by assumption, rfl⟩
    · cases h
  · cases h

section Elements

variable {Γ : List Ty} {env : List Value} {target : Ty} {c : Term} {v : Value} {f : Fault}
  {cs : List Term}

theorem evaluate_coerceTo?_error (hc : t.coerceTo? target = some c)
    (h : evaluate t env = .error f) : evaluate c env = .error f := by
  obtain ⟨steps, hsteps, -⟩ := Option.map_eq_some_iff.1 hc
  rw [evaluate_coerceTo? hsteps hc, h]
  rfl

theorem exists_convertsTo (ht : t.Typed Γ) (henv : List.Forall₂ Value.HasType env Γ)
    (hc : t.coerceTo? target = some c) (h : evaluate t env = .ok v) :
    ∃ u, ConvertsTo t.ty target v u ∧ evaluate c env = .ok u := by
  obtain ⟨steps, hsteps, -⟩ := Option.map_eq_some_iff.1 hc
  have hv := evaluate_hasType ht henv
  rw [h] at hv
  cases hv with
  | ok hv =>
      obtain ⟨u, hu, -⟩ := (implicit_of_implicitSteps? hsteps).run hv
      refine ⟨u, ⟨steps, hsteps, hu⟩, ?_⟩
      rw [evaluate_coerceTo? hsteps hc, h]
      exact hu

/-- Converting the elements causes no fault and hides none. -/
theorem firstFault?_coerceTo? (hts : ∀ t ∈ ts, t.Typed Γ)
    (henv : List.Forall₂ Value.HasType env Γ)
    (h : List.Forall₂ (fun t c => t.coerceTo? target = some c) ts cs) :
    firstFault? cs env = firstFault? ts env := by
  induction h with
  | nil => rfl
  | @cons t c ts cs hc _ ih =>
      obtain ⟨ht, hts⟩ := List.forall_mem_cons.1 hts
      cases hv : evaluate t env with
      | error f =>
          rw [firstFault?_cons_error hv,
            firstFault?_cons_error (evaluate_coerceTo?_error hc hv)]
      | ok v =>
          obtain ⟨u, -, hu⟩ := exists_convertsTo ht henv hc hv
          rw [firstFault?_cons_ok hv, firstFault?_cons_ok hu, ih hts]

/-- Where no element faults, an index picks the converted value of the element in its place. -/
theorem evaluate_item {position : Term} {ty item : Ty} {w : Number.Word .int32}
    (hts : ∀ t ∈ ts, t.Typed Γ) (henv : List.Forall₂ Value.HasType env Γ)
    (hcs : List.Forall₂ (fun t c => t.coerceTo? target = some c) ts cs)
    (hnone : firstFault? ts env = none)
    (hw : evaluate position env = .ok (.number (.word .int32 w))) :
    (∀ (k : Nat) (t : Term), w.val = k → ts[k]? = some t →
      ∃ v u, evaluate t env = .ok v ∧ ConvertsTo t.ty target v u ∧
        evaluate (.index (.array cs ty) position false item) env = .ok u) ∧
    (w.val < 0 ∨ ts.length ≤ w.val →
      evaluate (.index (.array cs ty) position false item) env =
        .error (.indexOutOfRange w.val ts.length)) := by
  obtain ⟨us, hus⟩ := exists_values ((firstFault?_coerceTo? hts henv hcs).trans hnone)
  rw [evaluate_index_of_forall₂ hus hw]
  constructor
  · intro k t hk ht
    obtain ⟨vs, hvs⟩ := exists_values hnone
    obtain ⟨v, -, hv⟩ := exists_partner hvs ht
    obtain ⟨c, hck, hc⟩ := exists_partner hcs ht
    obtain ⟨u, huk, hu⟩ := exists_partner hus hck
    obtain ⟨u', hconverts, hu'⟩ :=
      exists_convertsTo (hts t (List.mem_of_getElem? ht)) henv hc hv
    cases hu.symm.trans hu'
    exact ⟨v, u, hv, hconverts, elementAt_of_getElem? hk huk⟩
  · intro hout
    have hlength : us.length = ts.length := (hcs.length_eq.trans hus.length_eq).symm
    rw [elementAt_outside (hlength ▸ hout), hlength]

end Elements

theorem exists_bind_elements {es : List Expr} {i : Expr} {n m : Nat}
    (h : bind catalog (.index (.array es n) [i] m) false scopes = .ok t) :
    ∃ ts first cs index position,
      List.Forall₂ (fun e t => bind catalog e false scopes = .ok t) es ts ∧
      ts.head? = some first ∧ List.Forall₂ (fun t c => t.coerceTo? first.ty = some c) ts cs ∧
      bind catalog i false scopes = .ok index ∧ index.coerceTo? .int32 = some position ∧
      t = .index (.array cs (.array first.ty)) position false first.ty := by
  rw [bind] at h
  obtain ⟨receiver, hreceiver, h⟩ := bind_eq_ok h
  rw [bind, values_arguments] at hreceiver
  obtain ⟨ts, hts, harray⟩ := bind_eq_ok hreceiver
  obtain ⟨first, cs, hfirst, hcs, rfl⟩ := bindArray_eq_ok harray
  obtain ⟨arg, index, position, harg, hindex, hposition, rfl⟩ := bindIndex_eq_ok rfl h
  obtain ⟨arg', harg', hvalue⟩ := exists_argument catalog i []
  rw [harg', arguments] at harg
  cases harg
  rw [hvalue] at hindex
  exact ⟨ts, first, cs, index, position, forall₂_of_mapM_eq_ok hts, hfirst, hcs, hindex,
    hposition, rfl⟩

theorem typed_of_forall₂ (hc : catalog.Composed) {es : List Expr}
    (h : List.Forall₂ (fun e t => bind catalog e false scopes = .ok t) es ts) :
    ∀ t ∈ ts, t.Typed (types scopes) := by
  induction h with
  | nil => exact fun t ht => absurd ht List.not_mem_nil
  | cons he _ ih => exact List.forall_mem_cons.2 ⟨(bind_typed hc _ _ _).of_eq_ok he, ih⟩

/-! ### Members and items -/

/-- Record and array literals give back what was put in.  By its name in any letter case, a member
of a record literal has the type and the value of its expression, unless one of the expressions
faults; `null` is put in as an object.  An item of an array literal that binds has the value of the
element in its place in the type of the first element; a place outside of the array is a fault, and
so is a fault of an element, of which the first one comes out. -/
theorem bindInput_literal (hc : catalog.Composed) (input : Ty) :
    (∀ (members : List (Ident × Expr)) (ts : List Term) (k : Nat) (m : Ident × Expr) (t : Term)
        (name : Ident) (n : Nat),
      List.Forall₂ (fun m t => bindInput catalog m.2 input = .ok t) members ts →
      (members.map (·.1.key)).Nodup → members[k]? = some m → ts[k]? = some t →
      Text.sameIgnoringAsciiCase name.name m.1.name = true →
      ∃ t', bindInput catalog (.member (.record members n) name) input = .ok t' ∧
        t'.ty = (if t.isNullLiteral then .object else t.ty) ∧
        ∀ x, evaluate t' [x] =
          match firstFault? ts [x] with
          | some f => .error f
          | none => evaluate t [x]) ∧
    (∀ (es : List Expr) (i : Expr) (n m : Nat) (t' : Term),
      bindInput catalog (.index (.array es n) [i] m) input = .ok t' →
      ∃ ts first index position,
        List.Forall₂ (fun e t => bindInput catalog e input = .ok t) es ts ∧
        ts.head? = some first ∧ t'.ty = first.ty ∧
        bindInput catalog i input = .ok index ∧ index.coerceTo? .int32 = some position ∧
        ∀ x : Value, x.HasType input →
          (∀ f, firstFault? ts [x] = some f → evaluate t' [x] = .error f) ∧
          (firstFault? ts [x] = none → ∀ w : Number.Word .int32,
            evaluate position [x] = .ok (.number (.word .int32 w)) →
            (∀ (k : Nat) (t : Term), w.val = k → ts[k]? = some t →
              ∃ v u, evaluate t [x] = .ok v ∧ ConvertsTo t.ty first.ty v u ∧
                evaluate t' [x] = .ok u) ∧
            (w.val < 0 ∨ ts.length ≤ w.val →
              evaluate t' [x] = .error (.indexOutOfRange w.val ts.length)))) := by
  refine ⟨fun members ts k m t name n h hkeys hk ht hname => ?_, fun es i n m t' h => ?_⟩
  · obtain ⟨t', hbind, hty, heval⟩ :=
      exists_bind_member (n := n) h hkeys hk ht (Text.fold_eq_of_sameIgnoringAsciiCase hname)
    refine ⟨t', hbind, ?_, fun x => heval [x]⟩
    simpa only [Term.isNullLiteral, decide_eq_true_eq] using hty
  · obtain ⟨ts, first, cs, index, position, hts, hfirst, hcs, hindex, hposition, rfl⟩ :=
      exists_bind_elements h
    refine ⟨ts, first, index, position, hts, hfirst, rfl, hindex, hposition, fun x hx => ?_⟩
    have htyped := typed_of_forall₂ hc hts
    have henv : List.Forall₂ Value.HasType [x] [input] := .cons hx .nil
    refine ⟨fun f hf => evaluate_index_of_firstFault? ?_, fun hnone w hw => ?_⟩
    · exact (firstFault?_coerceTo? htyped henv hcs).trans hf
    · exact evaluate_item htyped henv hcs hnone hw

/-- On 32-bit integers, `new(it as Data, it + 1 as Next).NEXT` is the next one, and
`new[] { 1L, it }[it]` is the 64-bit one for `1` and outside of the array for `2`. -/
theorem bindInput_literal_longs : ∃ one : Expr, ∃ long : Expr,
    one = .literal (.number (.word .int32 (.wrap .int32 1))) ∧
    long = .literal (.number (.word .int64 (.wrap .int64 1))) ∧
    (∃ t', bindInput .standard (.member (.record [(⟨"Data", 10⟩, .it 4),
        (⟨"Next", 27⟩, .binary .add (.it 16) one 19)] 0) ⟨"NEXT", 33⟩) .int32 = .ok t' ∧
      t'.ty = .int32 ∧
      evaluate t' [.number (.word .int32 (.wrap .int32 4))] =
        .ok (.number (.word .int32 (.wrap .int32 5)))) ∧
    ∃ t', bindInput .standard (.index (.array [long, .it 12] 0) [.it 18] 17) .int32 = .ok t' ∧
      t'.ty = .int64 ∧
      evaluate t' [.number (.word .int32 (.wrap .int32 1))] =
        .ok (.number (.word .int64 (.wrap .int64 1))) ∧
      evaluate t' [.number (.word .int32 (.wrap .int32 2))] = .error (.indexOutOfRange 2 2) := by
  obtain ⟨hrecord, harray⟩ := bindInput_literal .standard .int32
  refine ⟨_, _, rfl, rfl, ?_, ?_⟩
  · obtain ⟨t', hbind, hty, heval⟩ := hrecord [(⟨"Data", 10⟩, .it 4), (⟨"Next", 27⟩,
        .binary .add (.it 16) (.literal (.number (.word .int32 (.wrap .int32 1)))) 19)] _ 1 _ _
      ⟨"NEXT", 33⟩ 0 (.cons rfl (.cons rfl .nil)) (by decide) rfl rfl (by decide)
    exact ⟨t', hbind, hty, heval _⟩
  · obtain ⟨t', hbind⟩ : ∃ t', bindInput .standard (.index (.array
      [.literal (.number (.word .int64 (.wrap .int64 1))), .it 12] 0) [.it 18] 17) .int32 =
      .ok t' := ⟨_, rfl⟩
    obtain ⟨ts, first, index, position, hts, hfirst, hty, hindex, hposition, heval⟩ :=
      harray _ _ _ _ _ hbind
    have hone : bindInput .standard (.literal (.number (.word .int64 (.wrap .int64 1)))) .int32 =
      .ok (.constant (.number (.word .int64 (.wrap .int64 1))) .int64) := rfl
    have hit (n : Nat) : bindInput .standard (.it n) .int32 = .ok (.parameter 0 .int32) := rfl
    obtain ⟨long, rest, hlong, hrest, rfl⟩ := List.forall₂_cons_left_iff.1 hts
    obtain ⟨it, rest', hitem, hnil, rfl⟩ := List.forall₂_cons_left_iff.1 hrest
    obtain rfl := List.forall₂_nil_left_iff.1 hnil
    cases hone.symm.trans hlong
    cases (hit _).symm.trans hitem
    cases (hit _).symm.trans hindex
    cases hfirst
    cases (coerceTo?_self (.parameter 0 .int32)).symm.trans hposition
    have htyped (i : Int) :
        Value.HasType (.number (.word .int32 (.wrap .int32 i))) .int32 := ⟨rfl, rfl⟩
    refine ⟨t', hbind, hty, ?_, ?_⟩
    · obtain ⟨v, u, hv, ⟨steps, hsteps, hrun⟩, hu⟩ :=
        ((heval _ (htyped 1)).2 rfl (.wrap .int32 1) rfl).1 1 _ (by decide) rfl
      cases hv
      have hwiden : implicitSteps? .int32 .int64 = some [(.numeric (.word .int64), .int64)] := by
        decide
      cases hwiden.symm.trans hsteps
      exact hu.trans hrun.symm
    · exact ((heval _ (htyped 2)).2 rfl (.wrap .int32 2) rfl).2 (Or.inr (by decide))

end Typing

end Elementwise
