import Elementwise.Proofs.Library.Catalog
import Elementwise.Proofs.Soundness.Typing.Conversion
import Elementwise.Typing.Binding

/-!
The calls of library functions in a term.  A call is told with its arguments and with the number of
functions of items around it, which is the number of parameters that are in scope at the call and not
at the whole term.  Typing loses no call: whatever a construct makes of its parts, the calls in the
parts are calls in the whole, since conversions are put around a term, and terms around others, but
none is left out.
-/

namespace Elementwise

/-! ### Calls of a term -/

/-- A call of a library function in a term. -/
structure Term.Call where
  /-- the number of functions of items that the call stands in -/
  depth : Nat
  builtin : Builtin
  args : List Term

namespace Term

/-- The call as a part of a function of items. -/
def Call.deeper (c : Call) : Call :=
  { c with depth := c.depth + 1 }

mutual

/-- The calls in a term, those of its parts at any depth included. -/
def calls : Term → List Call
  | constant _ _ | parameter _ _ => []
  | coerce _ t _ | convert _ t _ | unary _ t _ _ | field t _ _ _ => t.calls
  | binary _ l r _ _ | coalesce l r _ | index l r _ _ => l.calls ++ r.calls
  | choice c t f _ => c.calls ++ (t.calls ++ f.calls)
  | call b args _ _ => ⟨0, b, args⟩ :: callsAll args
  | query _ source none args _ _ => source.calls ++ callsAll args
  | query _ source (some body) args _ _ =>
    source.calls ++ (body.calls.map Call.deeper ++ callsAll args)
  | array elements _ => callsAll elements
  | record _ values => callsAll values

def callsAll : List Term → List Call
  | [] => []
  | t :: ts => t.calls ++ callsAll ts

end

/-- The parameter with the number, counted outside of the functions of items around the call, is the
pattern of the call. -/
def Call.usesAsPattern (c : Call) (n : Nat) : Bool :=
  c.builtin.takesPattern &&
    match c.args with
    | _ :: parameter i _ :: _ => i == n + c.depth
    | _ => false

/-- The parameter with the number is the pattern of some call. -/
def usesAsPattern (t : Term) (n : Nat) : Bool :=
  t.calls.any (·.usesAsPattern n)

theorem Call.usesAsPattern_deeper (c : Call) (n : Nat) :
    c.deeper.usesAsPattern n = c.usesAsPattern (n + 1) := by
  have hdepth : n + (c.depth + 1) = n + 1 + c.depth := by omega
  unfold usesAsPattern deeper
  rw [hdepth]

end Term

open Term (callsAll)

namespace Typing

variable {t t' left right receiver : Term}

/-! ### Conversions -/

theorem foldl_coerce_calls (steps : List (Coercion × Ty)) (t : Term) :
    (steps.foldl (fun t (c, ty) => Term.coerce c t ty) t).calls = t.calls := by
  induction steps generalizing t with
  | nil => rfl
  | cons step steps ih => exact ih (.coerce step.1 t step.2)

theorem coerceTo?_calls {target : Ty} (h : t.coerceTo? target = some t') :
    t'.calls = t.calls := by
  obtain ⟨steps, -, rfl⟩ := Option.map_eq_some_iff.1 h
  exact foldl_coerce_calls steps t

theorem convertScalar?_calls {source target : Ty} {lifted : Bool}
    (h : t.convertScalar? source target lifted = some t') : t'.calls = t.calls := by
  unfold Term.convertScalar? at h
  dsimp only at h
  split at h
  · obtain rfl := Option.some.inj h
    split <;> rfl
  · obtain rfl := Option.some.inj h
    rfl
  · obtain rfl := Option.some.inj h
    rfl
  · cases h

theorem convertTo_calls (t : Term) (target : Ty) (offset : Nat) :
    Ensures (·.calls = t.calls) (t.convertTo target offset) := by
  unfold Term.convertTo
  split
  · rename_i h
    exact .ok (coerceTo?_calls h)
  split
  · exact .ok rfl
  have hoperand : (if t.ty.isNullable && !target.isNullable then t.convert .unwrap t.ty.underlying
      else t).calls = t.calls := by
    split <;> rfl
  dsimp only
  split
  · exact .ok hoperand
  split
  · rename_i converted h
    have hconverted := (convertScalar?_calls h).trans hoperand
    refine .ok ?_
    split
    · exact hconverted
    · exact hconverted
  · exact .error

/-! ### Operators -/

/-- The calls of two terms are calls of the third. -/
def KeepsBoth (left right t : Term) : Prop :=
  left.calls ⊆ t.calls ∧ right.calls ⊆ t.calls

/-- A part made of two others, whose calls are those of the terms given, keeps their calls. -/
theorem keepsBoth_of_calls {l r : Term} (hl : l.calls = left.calls) (hr : r.calls = right.calls)
    (ht : t.calls = l.calls ++ r.calls) : KeepsBoth left right t := by
  rw [KeepsBoth, ht, hl, hr]
  exact ⟨List.subset_append_left _ _, List.subset_append_right _ _⟩

theorem unary_calls (op : UnaryOperator) (t : Term) (offset : Nat) :
    Ensures (·.calls = t.calls) (unary op t offset) := by
  unfold unary
  dsimp only
  split
  · rename_i h
    obtain ⟨target, -, h⟩ := Option.bind_eq_some_iff.1 h
    obtain ⟨operand, hc, h⟩ := Option.bind_eq_some_iff.1 h
    obtain rfl := Option.some.inj h
    have hcalls : operand.calls = t.calls := coerceTo?_calls hc
    exact .ok hcalls
  · exact .error

theorem numberOfDay_calls (t : Term) : (numberOfDay t).calls = t.calls := by
  unfold numberOfDay
  split <;> rfl

theorem coerceBoth_calls {target : Ty} {l r : Term}
    (h : coerceBoth left right target = .ok (l, r)) :
    l.calls = left.calls ∧ r.calls = right.calls := by
  unfold coerceBoth at h
  split at h
  · rename_i hl hr
    cases h
    exact ⟨coerceTo?_calls hl, coerceTo?_calls hr⟩
  · cases h

variable (left right)

theorem arithmetic_keeps (op : BinaryOperator) (lifted : Bool) (offset : Nat) :
    Ensures (KeepsBoth left right) (arithmetic op left right lifted offset) := by
  unfold arithmetic
  dsimp only
  split
  · exact .error
  · split
    · rename_i h
      obtain ⟨hl, hr⟩ := coerceBoth_calls h
      rw [numberOfDay_calls] at hl hr
      exact .ok (keepsBoth_of_calls hl hr rfl)
    · exact .error

theorem comparison_keeps (op : BinaryOperator) (target? : Option Ty) (lifted : Bool)
    (offset : Nat) : Ensures (KeepsBoth left right) (comparison op left right target? lifted offset) := by
  unfold comparison
  split
  · exact .error
  · split
    · rename_i h
      obtain ⟨hl, hr⟩ := coerceBoth_calls h
      exact .ok (keepsBoth_of_calls hl hr rfl)
    · exact .error

theorem nullTest_keeps (op : BinaryOperator) (offset : Nat) :
    Ensures (KeepsBoth right left) (nullTest op left right offset) := by
  unfold nullTest
  split
  · rename_i h
    exact .ok (keepsBoth_of_calls rfl (coerceTo?_calls h) rfl)
  · exact .error

theorem equality_keeps (op : BinaryOperator) (offset : Nat) :
    Ensures (KeepsBoth left right) (equality op left right offset) := by
  unfold equality
  split
  · exact (nullTest_keeps left right op offset).mono fun _ h => h.symm
  · split
    · exact nullTest_keeps right left op offset
    · exact comparison_keeps left right op _ _ offset

theorem additive_keeps (op : BinaryOperator) (lifted : Bool) (offset : Nat) :
    Ensures (KeepsBoth left right) (additive op left right lifted offset) := by
  unfold additive
  split
  · split
    · rename_i hl hr
      exact .ok (keepsBoth_of_calls (coerceTo?_calls hl) (coerceTo?_calls hr) rfl)
    · exact .error
  · exact arithmetic_keeps left right op lifted offset

theorem binary_keeps (op : BinaryOperator) (offset : Nat) :
    Ensures (KeepsBoth left right) (binary op left right offset) := by
  unfold binary
  cases op with
  | and | or =>
      dsimp only
      split
      · exact .ok (keepsBoth_of_calls rfl rfl rfl)
      · exact .error
  | equal | notEqual => exact equality_keeps left right _ offset
  | lessThan | greaterThan | lessEqual | greaterEqual =>
      exact comparison_keeps left right _ _ _ offset
  | add =>
      dsimp only
      split
      · exact .ok (keepsBoth_of_calls rfl rfl rfl)
      · exact additive_keeps left right _ _ offset
  | subtract | multiply | divide | modulo | coalesce => exact additive_keeps left right _ _ offset

theorem coalesce_keeps (offset : Nat) :
    Ensures (KeepsBoth left right) (coalesce left right offset) := by
  unfold coalesce
  split
  · exact .ok (keepsBoth_of_calls rfl rfl rfl)
  split
  · exact .error
  split
  · rename_i h
    exact .ok (keepsBoth_of_calls rfl (coerceTo?_calls h) rfl)
  · rename_i h
    exact .ok (keepsBoth_of_calls rfl (coerceTo?_calls h) rfl)
  · split
    · rename_i h
      split
      · exact .ok (keepsBoth_of_calls (coerceTo?_calls h) rfl rfl)
      · exact .error
    · exact .error

theorem unify_keeps (offset : Nat) :
    Ensures (fun branches => branches.1.calls = left.calls ∧ branches.2.calls = right.calls)
      (unify left right offset) := by
  unfold unify
  dsimp only
  split
  · rename_i h
    exact .ok ⟨rfl, coerceTo?_calls h⟩
  · rename_i h
    exact .ok ⟨coerceTo?_calls h, rfl⟩
  · split
    · exact .error
    · split
      · rename_i h
        exact .ok (coerceBoth_calls h)
      · exact .error

/-! ### Overloads -/

theorem coerceAll_keeps {offset : Nat} {params : List Ty} {args : List Term}
    (hlength : params.length = args.length) :
    Ensures (fun ts => callsAll ts = callsAll args) (Overload.coerceAll offset params args) := by
  induction params generalizing args with
  | nil =>
      obtain rfl := List.eq_nil_of_length_eq_zero hlength.symm
      exact .ok rfl
  | cons param params ih =>
      cases args with
      | nil => cases hlength
      | cons arg args =>
          unfold Overload.coerceAll
          split
          · rename_i h
            refine (ih (Nat.succ.inj hlength)).map fun ts hts => ?_
            rw [callsAll, callsAll, coerceTo?_calls h, hts]
          · exact .error

theorem resolve_keeps (overloads : List Signature) (args : List Term) (name : Ident) :
    Ensures (fun call => callsAll call.2 = callsAll args) (resolve overloads args name) := by
  unfold resolve
  dsimp only
  split
  · exact .error
  split
  · exact .error
  split
  · rename_i h
    exact (coerceAll_keeps (mem_of_best_eq h).2).map fun _ hts => hts
  · exact .error

theorem overloadedCall_keeps (overloads : List Signature) (args : List Term) (name : Ident) :
    Ensures (fun call => callsAll call.2 = callsAll args) (overloadedCall overloads args name) :=
  (resolve_keeps overloads args name).bind fun call hcall =>
    (Ensures.trivial (checkPattern call.1.builtin call.2 name.offset)).bind fun _ _ => .ok hcall

/-! ### Members -/

variable (receiver : Term) (name : Ident) (np : Bool) (scopes : List Scope)

theorem property?_keeps (lookup : Ty) (conditional : Bool) (found : Typed Term)
    (h : property? receiver lookup name conditional = some found) :
    Ensures (receiver.calls ⊆ ·.calls) found := by
  unfold property? at h
  dsimp only at h
  split at h
  · obtain rfl := Option.some.inj h
    exact .ok (List.Subset.refl _)
  · split at h
    · obtain rfl := Option.some.inj h
      refine .ok (List.Subset.trans ?_ (List.subset_cons_self _ _))
      exact List.subset_append_left _ _
    · rename_i hfind
      exact absurd (List.mem_of_find?_eq_some hfind) Ty.not_constant_mem_members
    · obtain rfl := Option.some.inj h
      exact .error
    · cases h

theorem bindProperty_keeps : Ensures (receiver.calls ⊆ ·.calls) (bindProperty receiver name np) := by
  unfold bindProperty
  dsimp only
  split
  · rename_i h
    split at h
    · exact property?_keeps receiver name _ true _ h
    · cases h
  · rename_i h
    exact property?_keeps receiver name _ false _ h
  · exact .error

theorem callsAll_subset_withReceiver (s : Signature) (args : List Term) :
    receiver.calls ++ callsAll args ⊆ callsAll (withReceiver receiver s args) := by
  unfold withReceiver
  split
  · rename_i h
    rw [List.isEmpty_iff.1 h.2]
    exact List.Subset.refl _
  · exact List.Subset.refl _

theorem bindInstanceCall_keeps (args : List Argument) :
    Ensures (receiver.calls ⊆ ·.calls) (bindInstanceCall receiver name args np scopes) := by
  unfold bindInstanceCall
  dsimp only
  refine (Ensures.trivial _).bind fun overloads _ => ?_
  refine (Ensures.trivial _).bind fun ts _ => ?_
  refine (Ensures.trivial _).bind fun call _ => .ok ?_
  refine List.Subset.trans ?_ (List.subset_cons_self _ _)
  exact List.Subset.trans (List.subset_append_left _ _)
    (callsAll_subset_withReceiver receiver call.1 call.2)

theorem query_keeps (item : Ty) (op : QueryOperator) (args : List Argument) (conditional : Bool) :
    Ensures (receiver.calls ⊆ ·.calls) (query receiver item op name args conditional scopes) := by
  refine (Ensures.trivial _).bind fun p _ => .ok ?_
  cases p.body with
  | none => exact List.subset_append_left _ _
  | some body => exact List.subset_append_left _ _

theorem bindMethodCall_keeps (args : List Argument) :
    Ensures (receiver.calls ⊆ ·.calls) (bindMethodCall receiver name args np scopes) := by
  unfold bindMethodCall
  dsimp only
  split
  · exact query_keeps receiver name scopes _ _ args _
  · exact bindInstanceCall_keeps receiver name np scopes args

theorem bindIndex_keeps (args : List Argument) (offset : Nat) :
    Ensures (receiver.calls ⊆ ·.calls) (bindIndex receiver args offset np scopes) := by
  unfold bindIndex
  dsimp only
  split
  · exact .error
  · refine (Ensures.trivial _).bind fun index _ => ?_
    split
    · exact .ok (List.subset_append_left _ _)
    · exact .error
  · exact .error

/-! ### Arrays -/

theorem mapM_calls {f : Term → Typed Term} {ts : List Term}
    (hf : ∀ t, Ensures (·.calls = t.calls) (f t)) :
    Ensures (callsAll · = callsAll ts) (ts.mapM f) := by
  induction ts with
  | nil => exact .ok rfl
  | cons t ts ih =>
      rw [List.mapM_cons]
      refine (hf t).bind fun t' ht => ih.bind fun ts' hts => .ok ?_
      rw [callsAll, callsAll, ht, hts]

theorem bindArray_keeps (elements : List Term) (offset : Nat) :
    Ensures (callsAll elements = ·.calls) (bindArray elements offset) := by
  unfold bindArray
  dsimp only
  cases elements with
  | nil => exact .error
  | cons first others =>
      dsimp only
      split
      · exact .error
      · refine (mapM_calls fun item => ?_).bind fun others' h => .ok ?_
        · split
          · rename_i h
            exact .ok (coerceTo?_calls h)
          · exact .error
        · rw [Term.calls, callsAll, callsAll, h]

end Typing

end Elementwise
