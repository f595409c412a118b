import Elementwise.Eval.Term

/-!
Constants in the place of parameters.  A parameter is known by its number, which is counted from the
innermost one: under the functions of items that stand around a part of a term it has a greater
number, and the parameters outside of it move down by one when it goes.
-/

namespace Elementwise

open Eval

namespace Term

mutual

/-- The term with a constant in the place of the parameter of the number. -/
def instantiate (v : Value) (n : Nat) : Term → Term
  | constant w ty => constant w ty
  | parameter i ty =>
    if i < n then parameter i ty else if i = n then constant v ty else parameter (i - 1) ty
  | coerce c t ty => coerce c (t.instantiate v n) ty
  | convert c t ty => convert c (t.instantiate v n) ty
  | unary op t lifted ty => unary op (t.instantiate v n) lifted ty
  | binary op l r lifted ty => binary op (l.instantiate v n) (r.instantiate v n) lifted ty
  | coalesce l r ty => coalesce (l.instantiate v n) (r.instantiate v n) ty
  | choice c t f ty => choice (c.instantiate v n) (t.instantiate v n) (f.instantiate v n) ty
  | call b args conditional ty => call b (instantiateAll v n args) conditional ty
  | field t i conditional ty => field (t.instantiate v n) i conditional ty
  | index t i conditional ty => index (t.instantiate v n) (i.instantiate v n) conditional ty
  | query q source none args conditional ty =>
    query q (source.instantiate v n) none (instantiateAll v n args) conditional ty
  | query q source (some body) args conditional ty =>
    query q (source.instantiate v n) (some (body.instantiate v (n + 1)))
      (instantiateAll v n args) conditional ty
  | array elements ty => array (instantiateAll v n elements) ty
  | record fields values => record fields (instantiateAll v n values)

def instantiateAll (v : Value) (n : Nat) : List Term → List Term
  | [] => []
  | t :: ts => t.instantiate v n :: instantiateAll v n ts

end

variable (v : Value) (n : Nat)

theorem instantiate_parameter_lt {i : Nat} (h : i < n) (ty : Ty) :
    (parameter i ty).instantiate v n = parameter i ty := by
  rw [instantiate, if_pos h]

theorem instantiate_parameter_self (ty : Ty) :
    (parameter n ty).instantiate v n = constant v ty := by
  rw [instantiate, if_neg (Nat.lt_irrefl n), if_pos rfl]

theorem instantiate_parameter_gt {i : Nat} (h : n ≤ i) (ty : Ty) :
    (parameter (i + 1) ty).instantiate v n = parameter i ty := by
  rw [instantiate, if_neg (by omega), if_neg (by omega), Nat.add_sub_cancel]

theorem instantiate_ty (t : Term) : (t.instantiate v n).ty = t.ty := by
  cases t with
  | parameter i ty =>
      unfold instantiate
      split
      · rfl
      · split <;> rfl
  | query q source body args conditional ty => cases body <;> rfl
  | _ => rfl

/-- A term is a constant after the replacement if it was that constant before, or the parameter. -/
theorem eq_of_instantiate_eq_constant {t : Term} {w : Value} {ty : Ty}
    (h : t.instantiate v n = constant w ty) : t = constant w ty ∨ t = parameter n ty := by
  cases t with
  | constant w' ty' =>
      rw [instantiate] at h
      exact Or.inl h
  | parameter i ty' =>
      unfold instantiate at h
      split at h
      · cases h
      · split at h
        · rename_i hi
          cases h
          exact Or.inr (by rw [hi])
        · cases h
  | query q source body args conditional ty => cases body <;> cases h
  | _ => cases h

/-! ### Scope -/

mutual

/-- Whether the term has no parameters but the innermost ones, as many as given. -/
def inScope (n : Nat) : Term → Bool
  | constant _ _ => true
  | parameter i _ => i < n
  | coerce _ t _ | convert _ t _ | unary _ t _ _ | field t _ _ _ => t.inScope n
  | binary _ l r _ _ | coalesce l r _ | index l r _ _ => l.inScope n && r.inScope n
  | choice c t f _ => c.inScope n && (t.inScope n && f.inScope n)
  | call _ args _ _ => allInScope n args
  | query _ source none args _ _ => source.inScope n && allInScope n args
  | query _ source (some body) args _ _ =>
    source.inScope n && (body.inScope (n + 1) && allInScope n args)
  | array elements _ => allInScope n elements
  | record _ values => allInScope n values

def allInScope (n : Nat) : List Term → Bool
  | [] => true
  | t :: ts => t.inScope n && allInScope n ts

end

end Term

/-! ### Evaluation -/

namespace Eval

theorem evaluate_parameter {i : Nat} {env : List Value} {v : Value} (h : env[i]? = some v)
    (ty : Ty) : evaluate (.parameter i ty) env = .ok v := by
  rw [evaluate, h]

variable (v : Value)

theorem evaluate_instantiate_parameter {i : Nat} {ty : Ty} {inner outer : List Value}
    (h : i < (inner ++ v :: outer).length) :
    evaluate ((Term.parameter i ty).instantiate v inner.length) (inner ++ outer) =
      evaluate (.parameter i ty) (inner ++ v :: outer) := by
  rcases Nat.lt_trichotomy i inner.length with hi | rfl | hi
  · rw [Term.instantiate_parameter_lt v _ hi, evaluate, evaluate, List.getElem?_append_left hi,
      List.getElem?_append_left hi]
  · have hv : (inner ++ v :: outer)[inner.length]? = some v := by
      rw [List.getElem?_append_right (Nat.le_refl _), Nat.sub_self, List.getElem?_cons_zero]
    rw [Term.instantiate_parameter_self, evaluate, evaluate_parameter hv]
  · obtain ⟨j, rfl⟩ : ∃ j, i = j + 1 := ⟨i - 1, by omega⟩
    have hj : inner.length ≤ j := by omega
    have hskip : (inner ++ v :: outer)[j + 1]? = (inner ++ outer)[j]? := by
      rw [List.getElem?_append_right (by omega), List.getElem?_append_right hj,
        Nat.succ_sub hj, List.getElem?_cons_succ]
    obtain ⟨w, hw⟩ : ∃ w, (inner ++ v :: outer)[j + 1]? = some w :=
      ⟨_, List.getElem?_eq_getElem h⟩
    rw [Term.instantiate_parameter_gt v _ hj, evaluate_parameter hw,
      evaluate_parameter (hskip.symm.trans hw)]

mutual

/-- Where the parameter has the value of the constant, the replacement changes no outcome. -/
theorem evaluate_instantiate : (t : Term) → (inner outer : List Value) →
    t.inScope (inner ++ v :: outer).length = true →
    evaluate (t.instantiate v inner.length) (inner ++ outer) = evaluate t (inner ++ v :: outer)
  | .constant w ty, _, _, _ => rfl
  | .parameter i ty, _, _, h => evaluate_instantiate_parameter v (of_decide_eq_true h)
  | .coerce c t ty, inner, outer, h => by
      rw [Term.instantiate, evaluate, evaluate, evaluate_instantiate t inner outer h]
  | .convert c t ty, inner, outer, h => by
      rw [Term.instantiate, evaluate, evaluate, evaluate_instantiate t inner outer h]
  | .unary op t lifted ty, inner, outer, h => by
      rw [Term.instantiate, evaluate, evaluate, evaluate_instantiate t inner outer h]
  | .binary op l r lifted ty, inner, outer, h => by
      obtain ⟨hl, hr⟩ := Bool.and_eq_true_iff.1 h
      rw [Term.instantiate, evaluate, evaluate, evaluate_instantiate l inner outer hl,
        evaluate_instantiate r inner outer hr]
  | .coalesce l r ty, inner, outer, h => by
      obtain ⟨hl, hr⟩ := Bool.and_eq_true_iff.1 h
      rw [Term.instantiate, evaluate, evaluate, evaluate_instantiate l inner outer hl,
        evaluate_instantiate r inner outer hr]
  | .choice c t f ty, inner, outer, h => by
      obtain ⟨hc, hbranches⟩ := Bool.and_eq_true_iff.1 h
      obtain ⟨ht, hf⟩ := Bool.and_eq_true_iff.1 hbranches
      rw [Term.instantiate, evaluate, evaluate, evaluate_instantiate c inner outer hc,
        evaluate_instantiate t inner outer ht, evaluate_instantiate f inner outer hf]
  | .call b args conditional ty, inner, outer, h => by
      rw [Term.instantiate, evaluate, evaluate,
        evaluateArguments_instantiate conditional args inner outer h]
  | .field t i conditional ty, inner, outer, h => by
      rw [Term.instantiate, evaluate, evaluate, evaluate_instantiate t inner outer h]
  | .index t i conditional ty, inner, outer, h => by
      obtain ⟨ht, hi⟩ := Bool.and_eq_true_iff.1 h
      rw [Term.instantiate, evaluate, evaluate, evaluate_instantiate t inner outer ht,
        evaluate_instantiate i inner outer hi]
  | .query q source none args conditional ty, inner, outer, h => by
      obtain ⟨hsource, hargs⟩ := Bool.and_eq_true_iff.1 h
      rw [Term.instantiate, evaluate, evaluate, evaluate_instantiate source inner outer hsource,
        evaluateAll_instantiate args inner outer hargs]
  | .query q source (some body) args conditional ty, inner, outer, h => by
      obtain ⟨hsource, hrest⟩ := Bool.and_eq_true_iff.1 h
      obtain ⟨hbody, hargs⟩ := Bool.and_eq_true_iff.1 hrest
      -- the body is evaluated with an item before the other values
      have hitem (item : Value) : evaluate (body.instantiate v (inner.length + 1))
          (item :: (inner ++ outer)) = evaluate body (item :: (inner ++ v :: outer)) :=
        evaluate_instantiate body (item :: inner) outer hbody
      rw [Term.instantiate, evaluate, evaluate, evaluate_instantiate source inner outer hsource,
        evaluateAll_instantiate args inner outer hargs]
      simp only [hitem]
  | .array elements ty, inner, outer, h => by
      rw [Term.instantiate, evaluate, evaluate, evaluateAll_instantiate elements inner outer h]
  | .record fields values, inner, outer, h => by
      rw [Term.instantiate, evaluate, evaluate, evaluateAll_instantiate values inner outer h]

theorem evaluateAll_instantiate : (ts : List Term) → (inner outer : List Value) →
    Term.allInScope (inner ++ v :: outer).length ts = true →
    evaluateAll (Term.instantiateAll v inner.length ts) (inner ++ outer) =
      evaluateAll ts (inner ++ v :: outer)
  | [], _, _, _ => rfl
  | t :: ts, inner, outer, h => by
      obtain ⟨ht, hts⟩ := Bool.and_eq_true_iff.1 h
      rw [Term.instantiateAll, evaluateAll, evaluateAll, evaluate_instantiate t inner outer ht,
        evaluateAll_instantiate ts inner outer hts]

theorem evaluateArguments_instantiate (conditional : Bool) : (ts : List Term) →
    (inner outer : List Value) → Term.allInScope (inner ++ v :: outer).length ts = true →
    evaluateArguments conditional (Term.instantiateAll v inner.length ts) (inner ++ outer) =
      evaluateArguments conditional ts (inner ++ v :: outer)
  | [], _, _, _ => rfl
  | t :: ts, inner, outer, h => by
      obtain ⟨ht, hts⟩ := Bool.and_eq_true_iff.1 h
      rw [Term.instantiateAll, evaluateArguments, evaluateArguments,
        evaluate_instantiate t inner outer ht, evaluateAll_instantiate ts inner outer hts]

end

end Eval

end Elementwise
