import Elementwise.Typing.Binding

/-!
Literals in the place of names.  A name is known by its key, and a lambda whose parameter has the
same key hides what the name meant before.  Names of symbols, members and conversions are no names of
parameters and stay.
-/

namespace Elementwise

namespace Expr

mutual

/-- The expression with the literal in the place of the name, unless a lambda has `hidden` what the
name means. -/
def replaceUnless (key : String) (l : Literal) : (hidden : Bool) → Expr → Expr
  | _, literal l' => literal l'
  | _, null => null
  | _, it offset => it offset
  | hidden, identifier id => if !hidden && id.key == key then literal l else identifier id
  | hidden, member object name => member (object.replaceUnless key l hidden) name
  | hidden, index object args offset =>
    index (object.replaceUnless key l hidden) (replaceAll key l hidden args) offset
  | hidden, call callee args offset =>
    call (callee.replaceUnless key l hidden) (replaceAll key l hidden args) offset
  | hidden, nullableConversion target args =>
    nullableConversion target (replaceAll key l hidden args)
  | hidden, unary op operand offset => unary op (operand.replaceUnless key l hidden) offset
  | hidden, binary op left right offset =>
    binary op (left.replaceUnless key l hidden) (right.replaceUnless key l hidden) offset
  | hidden, conditional c t f offset =>
    conditional (c.replaceUnless key l hidden) (t.replaceUnless key l hidden)
      (f.replaceUnless key l hidden) offset
  | hidden, nullPropagation operand offset =>
    nullPropagation (operand.replaceUnless key l hidden) offset
  | hidden, array elements offset => array (replaceAll key l hidden elements) offset
  | hidden, record members offset => record (replaceMembers key l hidden members) offset
  | hidden, lambda param body =>
    lambda param (body.replaceUnless key l (hidden || param.key == key))

def replaceAll (key : String) (l : Literal) (hidden : Bool) : List Expr → List Expr
  | [] => []
  | e :: es => e.replaceUnless key l hidden :: replaceAll key l hidden es

def replaceMembers (key : String) (l : Literal) (hidden : Bool) :
    List (Ident × Expr) → List (Ident × Expr)
  | [] => []
  | (name, e) :: members => (name, e.replaceUnless key l hidden) :: replaceMembers key l hidden members

end

/-- The expression with the literal in the place of the parameter whose name has the key. -/
def replace (key : String) (l : Literal) (e : Expr) : Expr :=
  e.replaceUnless key l false

variable (key : String) (l : Literal)

mutual

theorem replaceUnless_hidden : (e : Expr) → e.replaceUnless key l true = e
  | literal _ | null | it _ | identifier _ => rfl
  | member object _ => by
      rw [replaceUnless, replaceUnless_hidden object]
  | index object args _ | call object args _ => by
      rw [replaceUnless, replaceUnless_hidden object, replaceAll_hidden args]
  | nullableConversion _ args | array args _ => by
      rw [replaceUnless, replaceAll_hidden args]
  | unary _ operand _ | nullPropagation operand _ => by
      rw [replaceUnless, replaceUnless_hidden operand]
  | binary _ left right _ => by
      rw [replaceUnless, replaceUnless_hidden left, replaceUnless_hidden right]
  | conditional c t f _ => by
      rw [replaceUnless, replaceUnless_hidden c, replaceUnless_hidden t, replaceUnless_hidden f]
  | record members _ => by
      rw [replaceUnless, replaceMembers_hidden members]
  | lambda param body => by
      rw [replaceUnless, Bool.true_or, replaceUnless_hidden body]

theorem replaceAll_hidden : (es : List Expr) → replaceAll key l true es = es
  | [] => rfl
  | e :: es => by
      rw [replaceAll, replaceUnless_hidden e, replaceAll_hidden es]

theorem replaceMembers_hidden : (members : List (Ident × Expr)) →
    replaceMembers key l true members = members
  | [] => rfl
  | (name, e) :: members => by
      rw [replaceMembers, replaceUnless_hidden e, replaceMembers_hidden members]

end

end Expr

namespace Typing

/-! ### Scopes with and without a parameter -/

theorem parameter?_cons (key : String) (s : Scope) (scopes : List Scope) :
    parameter? key (s :: scopes) =
      if s.key == key then some (0, s.ty)
      else (parameter? key scopes).map fun found => (found.1 + 1, found.2) := by
  unfold parameter?
  rw [List.zipIdx_cons, List.find?_cons]
  dsimp only
  cases s.key == key with
  | true => rfl
  | false =>
      dsimp only
      rw [List.zipIdx_succ, List.find?_map, Option.map_map, if_neg Bool.false_ne_true,
        Option.map_map]
      rfl

/-- The number that a parameter has when there is one more at position `n`. -/
def skip (n i : Nat) : Nat :=
  if i < n then i else i + 1

theorem skip_succ_succ (n i : Nat) : skip (n + 1) (i + 1) = skip n i + 1 := by
  unfold skip
  split <;> split <;> omega

/-- A parameter that a name does not refer to only changes the numbers of those outside of it. -/
theorem parameter?_append_cons {key : String} {s : Scope} (inner outer : List Scope)
    (h : s.key ≠ key ∨ (inner.any (·.key == key)) = true) :
    parameter? key (inner ++ s :: outer) =
      (parameter? key (inner ++ outer)).map fun found => (skip inner.length found.1, found.2) := by
  induction inner with
  | nil =>
      have hs : s.key ≠ key := h.resolve_right (by simp)
      rw [List.nil_append, List.nil_append, parameter?_cons, if_neg (by simpa using hs)]
      rfl
  | cons t inner ih =>
      rw [List.cons_append, List.cons_append, parameter?_cons, parameter?_cons]
      split
      · rfl
      · rename_i ht
        have hrest : s.key ≠ key ∨ (inner.any (·.key == key)) = true := by
          simpa [ht] using h
        rw [ih hrest, Option.map_map, Option.map_map]
        simp only [Function.comp_def, List.length_cons, skip_succ_succ]

theorem parameter?_append_self {s : Scope} {inner : List Scope} (outer : List Scope)
    (h : (inner.any (·.key == s.key)) = false) :
    parameter? s.key (inner ++ s :: outer) = some (inner.length, s.ty) := by
  induction inner with
  | nil => rw [List.nil_append, parameter?_cons, if_pos (beq_self_eq_true _)]; rfl
  | cons t inner ih =>
      rw [List.any_cons, Bool.or_eq_false_iff] at h
      rw [List.cons_append, parameter?_cons, if_neg (by rw [h.1]; exact Bool.false_ne_true), ih h.2]
      rfl

theorem lt_of_parameter?_eq {key : String} {scopes : List Scope} {i : Nat} {ty : Ty}
    (h : parameter? key scopes = some (i, ty)) : i < scopes.length := by
  induction scopes generalizing i with
  | nil => cases h
  | cons s scopes ih =>
      rw [parameter?_cons] at h
      split at h
      · cases h
        exact Nat.zero_lt_succ _
      · obtain ⟨⟨j, t⟩, hj, hij⟩ := Option.map_eq_some_iff.1 h
        cases hij
        exact Nat.succ_lt_succ (ih hj)

end Typing

end Elementwise
