import Elementwise.Proofs.Simulation.Member
import Elementwise.Proofs.Substitution.Expr
import Elementwise.Proofs.Substitution.Term

/-!
Typing an expression with a literal in the place of a parameter gives the term with a constant in the
place of the parameter, and either expression has a type if the other one has.  The exception is a
parameter that is the pattern of a call, since only a constant pattern is checked.
-/

namespace Elementwise

namespace Typing

/-! ### Terms -/

/-- The second term is the first one with a constant in the place of the parameter of the number;
`outer` parameters are in scope outside of it. -/
def Instantiates (v : Value) (outer n : Nat) (t t' : Term) : Prop :=
  t' = t.instantiate v n ∧ t.inScope (outer + 1 + n) = true

section Terms

variable {v : Value} {outer n : Nat} {ts ts' : List Term}

theorem instantiates_all (h : List.Forall₂ (Instantiates v outer n) ts ts') :
    ts' = Term.instantiateAll v n ts ∧ Term.allInScope (outer + 1 + n) ts = true := by
  induction h with
  | nil => exact ⟨rfl, rfl⟩
  | cons h _ ih =>
      exact ⟨by rw [Term.instantiateAll, ← h.1, ← ih.1], Bool.and_eq_true_iff.2 ⟨h.2, ih.2⟩⟩

/-- Typing treats a constant like a parameter of its type. -/
def instantiation (v : Value) (outer : Nat) : Congruence where
  rel := Instantiates v outer
  offered _ := True
  member _ := trivial
  ty_eq h := by rw [h.1, Term.instantiate_ty]
  constant _ _ _ := ⟨rfl, rfl⟩
  item n ty := ⟨(Term.instantiate_parameter_lt v _ (Nat.zero_lt_succ n) ty).symm,
    decide_eq_true (Nat.zero_lt_succ _)⟩
  coerce _ _ h := ⟨by rw [h.1, Term.instantiate], h.2⟩
  convert _ _ h := ⟨by rw [h.1, Term.instantiate], h.2⟩
  unary _ _ _ h := ⟨by rw [h.1, Term.instantiate], h.2⟩
  binary _ _ _ hl hr :=
    ⟨by rw [hl.1, hr.1, Term.instantiate], Bool.and_eq_true_iff.2 ⟨hl.2, hr.2⟩⟩
  coalesce _ hl hr :=
    ⟨by rw [hl.1, hr.1, Term.instantiate], Bool.and_eq_true_iff.2 ⟨hl.2, hr.2⟩⟩
  choice _ hc ht hf := ⟨by rw [hc.1, ht.1, hf.1, Term.instantiate],
    Bool.and_eq_true_iff.2 ⟨hc.2, Bool.and_eq_true_iff.2 ⟨ht.2, hf.2⟩⟩⟩
  call _ _ _ h := by
    obtain ⟨rfl, hscope⟩ := instantiates_all h
    exact ⟨by rw [Term.instantiate], hscope⟩
  field _ _ _ h := ⟨by rw [h.1, Term.instantiate], h.2⟩
  index _ _ h hi := ⟨by rw [h.1, hi.1, Term.instantiate], Bool.and_eq_true_iff.2 ⟨h.2, hi.2⟩⟩
  query _ _ _ hs hb ha := by
    obtain ⟨rfl, hargs⟩ := instantiates_all ha
    cases hb with
    | none => exact ⟨by rw [hs.1, Term.instantiate], Bool.and_eq_true_iff.2 ⟨hs.2, hargs⟩⟩
    | some hb =>
        refine ⟨by rw [hs.1, hb.1, Term.instantiate], Bool.and_eq_true_iff.2 ⟨hs.2, ?_⟩⟩
        exact Bool.and_eq_true_iff.2 ⟨hb.2, hargs⟩
  array _ h := by
    obtain ⟨rfl, hscope⟩ := instantiates_all h
    exact ⟨by rw [Term.instantiate], hscope⟩
  record _ h := by
    obtain ⟨rfl, hscope⟩ := instantiates_all h
    exact ⟨by rw [Term.instantiate], hscope⟩

/-- The replacement, from the term with the parameter (`named`) or back to it.  The former makes
constants of patterns, if the parameter is the pattern of a call. -/
def replacement (v : Value) (outer : Nat) : (named : Bool) → Simulation
  | true =>
    { toCongruence := instantiation v outer
      admits := fun n c => c.usesAsPattern n = false
      admits_deeper := fun h => by rwa [Term.Call.usesAsPattern_deeper] at h
      pattern := fun {n b args args' offset} hadmits h hcheck => by
        rw [checkPattern_eq_ok_iff] at hcheck ⊢
        rintro t' s ty ts' rfl hb
        cases h with
        | @cons t _ _ _ ht hts =>
            cases hts with
            | @cons pattern _ ts _ hpattern _ =>
                rcases Term.eq_of_instantiate_eq_constant v n hpattern.1.symm with rfl | rfl
                · exact hcheck t s ty ts rfl hb
                · have huses := hadmits hb
                  simp [Term.Call.usesAsPattern, hb] at huses }
  | false =>
    { toCongruence := (instantiation v outer).flip
      admits := fun _ _ => True
      admits_deeper := fun _ => trivial
      pattern := fun {n b args args' offset} _ h hcheck => by
        rw [checkPattern_eq_ok_iff] at hcheck ⊢
        rintro t' s ty ts' rfl hb
        cases h with
        | @cons t _ _ _ ht hts =>
            cases hts with
            | @cons pattern _ ts _ hpattern _ =>
                obtain rfl := hpattern.1
                exact hcheck t s ty ts rfl hb }

theorem replacement_offered (named : Bool) (b : Builtin) :
    (replacement v outer named).offered b := by
  cases named <;> exact trivial

end Terms

/-! ### The two sides

On the side that is `named` the parameter is in scope, outside of those in `inner`.  On the other
side it is not, and the literal stands in its place. -/

section Sides

variable (catalog : Catalog) (key : String) (l : Literal) (outer : List Scope)

/-- The name does not mean the parameter, or need not be replaced. -/
def hidden (named : Bool) (inner : List Scope) : Bool :=
  named || inner.any (·.key == key)

def sideScopes (named : Bool) (inner : List Scope) : List Scope :=
  inner ++ if named then ⟨key, (bindLiteral l).ty⟩ :: outer else outer

theorem hidden_cons (named : Bool) (s : Scope) (inner : List Scope) :
    hidden key named (s :: inner) = (hidden key named inner || s.key == key) := by
  rw [hidden, hidden, List.any_cons, Bool.or_comm (s.key == key), Bool.or_assoc]

/-- The terms of one side, if they are good, have the partners that the replacement makes on the
other side. -/
abbrev SideFollows (named : Bool) (inner : List Scope) (o : Bool → Typed Term) : Prop :=
  Follows ((replacement l.value outer.length named).Good inner.length)
    ((replacement l.value outer.length named).rel inner.length) (o named) (o !named)

variable {catalog key l outer}
variable {inner : List Scope} {named : Bool}

theorem sideFollows_of_alike {o : Bool → Typed Term}
    (h : Alike (Instantiates l.value outer.length inner.length) (o true) (o false)) :
    SideFollows l outer named inner o := by
  cases named with
  | true => exact .of_alike h
  | false => exact .of_alike h.flip

/-! ### Names -/

theorem sideScopes_length :
    (sideScopes key l outer true inner).length = outer.length + 1 + inner.length := by
  rw [sideScopes, List.length_append, Nat.add_comm]
  rfl

theorem instantiate_skip (v : Value) (n i : Nat) (ty : Ty) :
    (Term.parameter (skip n i) ty).instantiate v n = .parameter i ty := by
  unfold skip
  split
  · rename_i h
    exact Term.instantiate_parameter_lt v n h ty
  · rename_i h
    exact Term.instantiate_parameter_gt v n (Nat.le_of_not_lt h) ty

variable (l outer inner) in
/-- A name that does not mean the parameter means the same on both sides. -/
theorem parameter?_sides {name : String} (h : key ≠ name ∨ inner.any (·.key == name) = true) :
    Option.Rel (fun found found' => Instantiates l.value outer.length inner.length
        (.parameter found.1 found.2) (.parameter found'.1 found'.2))
      (parameter? name (sideScopes key l outer true inner))
      (parameter? name (sideScopes key l outer false inner)) := by
  have hskip : parameter? name (sideScopes key l outer true inner) =
      (parameter? name (sideScopes key l outer false inner)).map
        fun found => (skip inner.length found.1, found.2) :=
    parameter?_append_cons (s := ⟨key, (bindLiteral l).ty⟩) inner outer h
  cases hfound : parameter? name (sideScopes key l outer false inner) with
  | none =>
      rw [hskip, hfound]
      exact .none
  | some found =>
      rw [hfound] at hskip
      have hlt := lt_of_parameter?_eq hskip
      rw [sideScopes_length] at hlt
      rw [hskip]
      exact .some ⟨(instantiate_skip _ _ _ _).symm, decide_eq_true hlt⟩

/-- Either a name means the parameter, or it stands for the same on both sides. -/
theorem identifier_cases (key : String) (l : Literal) (inner : List Scope) (id : Ident) :
    (id.key = key ∧ inner.any (·.key == key) = false) ∨
      (∀ named, (Expr.identifier id).replaceUnless key l (hidden key named inner) =
        .identifier id) ∧
      (key ≠ id.key ∨ inner.any (·.key == id.key) = true) := by
  by_cases hkey : id.key = key
  · cases hany : inner.any (·.key == key) with
    | false => exact Or.inl ⟨hkey, rfl⟩
    | true =>
        refine Or.inr ⟨fun named => ?_, Or.inr (hkey ▸ hany)⟩
        rw [Expr.replaceUnless, hidden, hany, Bool.or_true]
        rfl
  · refine Or.inr ⟨fun named => ?_, Or.inl (Ne.symm hkey)⟩
    rw [Expr.replaceUnless, beq_false_of_ne hkey, Bool.and_false, if_neg Bool.false_ne_true]

end Sides

end Typing

end Elementwise
