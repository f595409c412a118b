import Elementwise.Proofs.Soundness.Binding
import Elementwise.Stage

/-!
Stages are sound.  A stage that can be built maps every element of its input type to a value of its
output type, or to a fault that the element causes; none of the parts of its expression is ever given
a parameter that is missing or a value that its type excludes.
-/

namespace Elementwise

open Eval

/-! ### The parts of an expression in their environments -/

/-- The parts of a term that are evaluated in the environment of the whole. -/
def Term.operands : Term → List Term
  | constant _ _ | parameter _ _ => []
  | coerce _ t _ | convert _ t _ | unary _ t _ _ | field t _ _ _ => [t]
  | binary _ l r _ _ | coalesce l r _ | index l r _ _ => [l, r]
  | choice c t f _ => [c, t, f]
  | call _ args _ _ => args
  | query _ source _ args _ _ => source :: args
  | array elements _ => elements
  | record _ values => values

/-- The parts that the evaluation of a term can come to, with the environments it comes to them in:
the function of a query is evaluated on the items of the source. -/
inductive Eval.Meets (root : Term) (start : List Value) : Term → List Value → Prop where
  | root : Meets root start root start
  | operand {t part : Term} {env : List Value} (h : Meets root start t env)
    (hp : part ∈ t.operands) : Meets root start part env
  | body {q : Query} {source body : Term} {args : List Term} {conditional : Bool} {ty : Ty}
    {env items : List Value} {item : Value}
    (h : Meets root start (.query q source (some body) args conditional ty) env)
    (hs : evaluate source env = .ok (.array items)) (hi : item ∈ items) :
    Meets root start body (item :: env)

theorem Term.Typed.operands {Γ : List Ty} {t part : Term} (h : t.Typed Γ)
    (hp : part ∈ t.operands) : part.Typed Γ := by
  cases h with
  | constant | parameter => cases hp
  | coerce h | convert h | unary h | field h => exact List.mem_singleton.1 hp ▸ h
  | binary hl hr | coalesce hl hr | index hl hr =>
      rcases List.mem_cons.1 hp with rfl | hp
      · exact hl
      · exact List.mem_singleton.1 hp ▸ hr
  | choice hc ht hf =>
      rcases List.mem_cons.1 hp with rfl | hp
      · exact hc
      rcases List.mem_cons.1 hp with rfl | hp
      · exact ht
      · exact List.mem_singleton.1 hp ▸ hf
  | call h | array h | record h => exact h part hp
  | query hs _ hargs =>
      rcases List.mem_cons.1 hp with rfl | hp
      · exact hs
      · exact hargs part hp

/-- A part that evaluation comes to is typed in the types of the values it finds there. -/
theorem Eval.Meets.exists_types {root t : Term} {start env : List Value} {Γ : List Ty}
    (h : Meets root start t env) (hroot : root.Typed Γ)
    (hstart : List.Forall₂ Value.HasType start Γ) :
    ∃ Δ, t.Typed Δ ∧ List.Forall₂ Value.HasType env Δ := by
  induction h with
  | root => exact ⟨Γ, hroot, hstart⟩
  | operand _ hp ih =>
      obtain ⟨Δ, ht, henv⟩ := ih
      exact ⟨Δ, ht.operands hp, henv⟩
  | @body q source body args conditional ty env items item _ hs hi ih =>
      obtain ⟨Δ, ht, henv⟩ := ih
      cases ht with
      | @query _ _ _ _ _ _ t _ _ hsource hb _ hst _ _ =>
          refine ⟨t :: Δ, hb body rfl, .cons ?_ henv⟩
          have hitems := evaluate_hasType hsource henv
          rw [hs] at hitems
          cases hitems with
          | ok hitems =>
              have hlookup := hasType_memberType conditional hitems nofun
              obtain ⟨_, heq, hall⟩ := (hlookup.items hst).resolve_left nofun
              cases heq
              exact hall item hi

/-! ### Stages -/

theorem Term.parse_eq_ok {catalog : Catalog} {text : String} {input : Ty} {t : Term}
    (h : Term.parse catalog text input = .ok t) :
    ∃ e, Expr.parse text = .ok e ∧ Typing.bindInput catalog e input = .ok t := by
  unfold Term.parse at h
  cases he : Expr.parse text with
  | error cause =>
      rw [he] at h
      cases h
  | ok e =>
      rw [he] at h
      refine ⟨e, rfl, ?_⟩
      change (Typing.bindInput catalog e input).mapError BuildCause.typing = .ok t at h
      cases hb : Typing.bindInput catalog e input with
      | error cause =>
          rw [hb] at h
          cases h
      | ok t' =>
          rw [hb] at h
          cases h
          rfl

namespace Stage

variable {catalog : Catalog} {text : String} {input : Ty} {s : Stage}

theorem build_typed (hc : catalog.Composed) (h : build catalog text input = .ok s) :
    s.input = input ∧ s.term.Typed [input] := by
  unfold build at h
  split at h
  · rename_i t ht
    cases h
    refine ⟨rfl, ?_⟩
    obtain ⟨e, -, hb⟩ := Term.parse_eq_ok ht
    have htyped : t.Typed [input] := (Typing.bind_typed hc e false _).of_eq_ok hb
    dsimp only
    split
    · rename_i hnull
      refine .coerce htyped ?_
      rw [of_decide_eq_true hnull]
      exact .nullLiteral rfl
    · exact htyped
  · cases h

/-- An element of the input type is mapped to a value of the output type, or to a fault that is
neither internal nor about the input.  On the way every part of the expression has a value of its
type or such a fault, finds its parameter, and has no `null` unless its type has. -/
theorem process_hasType (hc : catalog.Composed) (h : build catalog text input = .ok s)
    {element : Value} (he : element.conformsTo input = true) (hw : element.isWellFormed = true) :
    ((∃ v, s.process element = .ok v ∧ v.conformsTo s.output = true ∧ v.isWellFormed = true) ∨
      ∃ f, s.process element = .error f ∧ (∀ reason, f ≠ .internal reason) ∧
        ∀ expected found, f ≠ .inputType expected found) ∧
    ∀ part env, Meets s.term [element] part env →
      HasType (evaluate part env) part.ty ∧
      (∀ depth ty, part = .parameter depth ty → depth < env.length) ∧
      (part.ty.acceptsNull = false → evaluate part env ≠ .ok .null) := by
  obtain ⟨rfl, ht⟩ := build_typed hc h
  have henv : List.Forall₂ Value.HasType [element] [s.input] := .cons ⟨he, hw⟩ .nil
  refine ⟨?_, fun part env hmeets => ?_⟩
  · have hprocess : s.process element = evaluate s.term [element] := by
      rw [process, if_pos he, run]
    have hresult := evaluate_hasType ht henv
    rw [hprocess]
    generalize evaluate s.term [element] = o at hresult
    cases hresult with
    | @ok v hv => exact Or.inl ⟨v, rfl, hv.conforms, hv.wellFormed⟩
    | @error f hf =>
        refine Or.inr ⟨f, rfl, fun reason hreason => ?_, fun expected found hinput => ?_⟩
        · rw [hreason] at hf
          cases hf
        · rw [hinput] at hf
          cases hf
  · obtain ⟨Δ, hpart, henv⟩ := hmeets.exists_types ht henv
    have hresult := evaluate_hasType hpart henv
    refine ⟨hresult, ?_, fun hn hnull => ?_⟩
    · rintro depth ty rfl
      cases hpart with
      | parameter hdepth =>
          rw [henv.length_eq]
          exact (List.getElem?_eq_some_iff.1 hdepth).1
    · rw [hnull] at hresult
      cases hresult with
      | ok hv => exact hv.ne_null hn rfl

/-- The stage that a text spells, and what it makes of an element, with what can be computed of
them. -/
theorem exists_run {p : Stage → Value → Bool} {element : Value}
    (h : (build catalog text input).toOption.any (fun s =>
      (s.run element).toOption.any (p s)) = true) :
    ∃ s v, build catalog text input = .ok s ∧ s.run element = .ok v ∧ p s v = true := by
  cases hs : build catalog text input with
  | error e =>
      rw [hs] at h
      cases h
  | ok s =>
      rw [hs] at h
      cases hv : s.run element with
      | error f =>
          rw [Except.toOption, Option.any_some, hv] at h
          cases h
      | ok v =>
          rw [Except.toOption, Option.any_some, hv] at h
          exact ⟨s, v, rfl, hv, h⟩

/-- The names of the adults among the people of an array. -/
theorem process_hasType_adults :
    ∃ s, build .standard "it.Where(p => p.Age >= 18).Select(p => p.Name)"
        (.array (.record [("Name", .string), ("Age", .int32)])) = .ok s ∧
      ((∃ v, s.process (.array [.record [("Name", .string), ("Age", .int32)]
            [.string "Ada", .int32 (.wrap .int32 36)]]) = .ok v ∧
          v.conformsTo s.output = true ∧ v.isWellFormed = true) ∨
        ∃ f, s.process (.array [.record [("Name", .string), ("Age", .int32)]
            [.string "Ada", .int32 (.wrap .int32 36)]]) = .error f ∧
          (∀ reason, f ≠ .internal reason) ∧ ∀ expected found, f ≠ .inputType expected found) := by
  have hok : (build .standard "it.Where(p => p.Age >= 18).Select(p => p.Name)"
      (.array (.record [("Name", .string), ("Age", .int32)]))).toOption.isSome = true := by
    decide +kernel
  cases h : build .standard "it.Where(p => p.Age >= 18).Select(p => p.Name)"
      (.array (.record [("Name", .string), ("Age", .int32)])) with
  | ok s => exact ⟨s, rfl, (process_hasType .standard h (by decide) (by decide)).1⟩
  | error e =>
      rw [h] at hok
      cases hok

end Stage

end Elementwise
