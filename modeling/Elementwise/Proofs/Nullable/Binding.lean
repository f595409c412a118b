import Elementwise.Proofs.Nullable.Operator
import Elementwise.Proofs.Soundness.Binding

/-!
An input that may be `null` in the place of one that may not.  An expression of operators and
conversions that is typed for a value type is typed for the nullable type over it, too, and it does
the same to every input that is there.
-/

namespace Elementwise

open Eval

/-- Expressions of `it` and constants with operators and conversions, but no logical ones and no
`??`. -/
inductive Expr.IsScalar : Expr → Prop where
  | literal (l : Literal) : IsScalar (.literal l)
  | null : IsScalar .null
  | it (offset : Nat) : IsScalar (.it offset)
  | unary {op : UnaryOperator} {operand : Expr} {offset : Nat} (h : operand.IsScalar) :
    IsScalar (.unary op operand offset)
  | binary {op : BinaryOperator} {left right : Expr} {offset : Nat} (hl : left.IsScalar)
    (hr : right.IsScalar) (hand : op ≠ .and) (hor : op ≠ .or) (hcoalesce : op ≠ .coalesce) :
    IsScalar (.binary op left right offset)
  | conversion {target : Ident} {arg : Expr} {offset : Nat} (h : arg.IsScalar) :
    IsScalar (.call (.identifier target) [arg] offset)
  | nullableConversion {target : Ident} {arg : Expr} (h : arg.IsScalar) :
    IsScalar (.nullableConversion target [arg])

namespace Typing

variable {catalog : Catalog} {T : Ty} {e : Expr}

/-- No name of the library stands for a nullable type. -/
theorem conversionTarget_isNullable (hc : catalog.Composed) {id : Ident} {t : Ty}
    (h : conversionTarget catalog id = .ok t) : t.isNullable = false := by
  have hall : Library.standard.all (fun s => s.target?.all (!·.isNullable)) = true := by
    decide +kernel
  unfold conversionTarget at h
  split at h
  · cases h
  · rename_i s hs
    have hs := List.all_eq_true.1 hall s (hc.lookup_mem hs)
    split at h
    · rename_i target ht
      cases h
      rw [ht, Option.all_some, Bool.not_eq_true'] at hs
      exact hs
    · cases h

theorem bindConversion_singleton (h : e.IsScalar) (target : Ty) (id : Ident)
    (scopes : List Scope) :
    bindConversion target id (arguments catalog [e]) scopes =
      bind catalog e false scopes >>= fun t => t.convertTo target id.offset := by
  have hlambda : ∀ param body, e ≠ .lambda param body := by
    rintro param body rfl
    cases h
  rw [arguments_cons hlambda, arguments]
  rfl

/-! ### Two inputs side by side -/

/-- Whatever is typed first is typed then, lifted. -/
abbrev FollowsLifted (Γ : List Ty) (o o' : Typed Term) : Prop :=
  Follows (fun _ => True) (Lifts Γ) o o'

theorem FollowsLifted.bind {Γ : List Ty} {o o' : Typed Term} {f f' : Term → Typed Term}
    (ho : FollowsLifted Γ o o') (ht : Ensures (Term.Typed Γ) o)
    (hf : ∀ t t', t.Typed Γ → Lifts Γ t t' → FollowsLifted Γ (f t) (f' t')) :
    FollowsLifted Γ (o >>= f) (o' >>= f') := by
  intro c hc _
  cases ht with
  | error => cases hc
  | ok ht =>
      obtain ⟨t', rfl, hl⟩ := ho _ rfl trivial
      exact hf _ t' ht hl c hc trivial

theorem parameter?_input (key : String) (t : Ty) :
    parameter? key [⟨itKey, t⟩] = if itKey == key then some (0, t) else none := by
  rw [parameter?, List.zipIdx_singleton, List.find?_singleton]
  dsimp only
  split <;> rfl

theorem bindIt_input (offset : Nat) (t : Ty) : bindIt offset [⟨itKey, t⟩] = .ok (.parameter 0 t) := by
  rw [bindIt, parameter?_input, if_pos (beq_self_eq_true itKey)]

theorem isSome_parameter?_input (key : String) (t t' : Ty) :
    (parameter? key [⟨itKey, t⟩]).isSome = (parameter? key [⟨itKey, t'⟩]).isSome := by
  rw [parameter?_input, parameter?_input]
  cases itKey == key <;> rfl

theorem bindConversion_followsLifted (hc : catalog.Composed) (he : e.IsScalar)
    (ho : FollowsLifted [T] (bind catalog e false [⟨itKey, T⟩])
      (bind catalog e false [⟨itKey, .nullable T⟩]))
    {target : Ty} (hw : target.isNullable = true → target.underlying.isValueType = true)
    (id : Ident) :
    FollowsLifted [T] (bindConversion target id (arguments catalog [e]) [⟨itKey, T⟩])
      (bindConversion target id (arguments catalog [e]) [⟨itKey, .nullable T⟩]) := by
  rw [bindConversion_singleton he, bindConversion_singleton he]
  exact ho.bind (bind_typed hc e false [⟨itKey, T⟩]) fun t t' ht hl c hc _ => hl.convertTo ht hw hc

/-- Typing an input with `null` besides follows typing the input without. -/
theorem bind_followsLifted (hc : catalog.Composed) (hT : T.isValueType = true)
    (he : e.IsScalar) :
    FollowsLifted [T] (bind catalog e false [⟨itKey, T⟩])
      (bind catalog e false [⟨itKey, .nullable T⟩]) := by
  have typed (e : Expr) : Ensures (Term.Typed [T]) (bind catalog e false [⟨itKey, T⟩]) :=
    bind_typed hc e false [⟨itKey, T⟩]
  induction he with
  | literal l =>
      rw [bind, bind]
      exact .ok ⟨Or.inl rfl, fun _ _ => rfl⟩
  | null =>
      rw [bind, bind]
      exact .ok ⟨Or.inl rfl, fun _ _ => rfl⟩
  | it offset =>
      rw [bind, bind, bindIt_input, bindIt_input]
      exact .ok ⟨Or.inr ⟨hT, rfl⟩, fun _ _ => by rw [evaluate, evaluate]⟩
  | unary h ih =>
      rw [bind, bind]
      exact ih.bind (typed _) fun t t' ht hl c hc _ => hl.unary ht hc
  | @binary op _ _ _ hl hr hand hor hcoalesce ihl ihr =>
      rw [bind, bind]
      refine ihl.bind (typed _) fun l l' hlt hl => ihr.bind (typed _) fun r r' hrt hr => ?_
      cases op with
      | and => exact absurd rfl hand
      | or => exact absurd rfl hor
      | coalesce => exact absurd rfl hcoalesce
      | _ => exact fun c hc _ => binary_lifts hl hr hlt hrt hand hor hcoalesce hc
  | @conversion id arg offset h ih =>
      rw [bind, bind, isSome_parameter?_input id.key T (.nullable T)]
      split
      · exact .of_error
      cases htarget : conversionTarget catalog id with
      | error err => exact .of_error
      | ok target =>
          have hplain := conversionTarget_isNullable hc htarget
          refine bindConversion_followsLifted hc h ih (fun hn => ?_) id
          rw [hplain] at hn
          cases hn
  | @nullableConversion id arg h ih =>
      rw [bind, bind]
      unfold bindNullableConversion
      refine .bind_same fun target => ?_
      split
      · rename_i hv
        rw [Ty.asNullable, if_pos hv]
        have hw : (Ty.nullable target).isNullable = true →
            (Ty.nullable target).underlying.isValueType = true :=
          fun _ => hv
        exact bindConversion_followsLifted hc h ih hw id
      · exact .of_error

/-! ### Nullable inputs -/

theorem isWellFormed_of_isValueType {v : Value} (hT : T.isValueType = true)
    (hv : v.conformsTo T = true) : v.isWellFormed = true := by
  cases T with
  | boolean | numeric | dateTime | dateTimeOffset | timeSpan | guid | dayOfWeek =>
      cases v <;> first | rfl | cases hv
  | _ => cases hT

/-- An expression of operators and conversions that is typed for a value type is typed for the
nullable type over it, with the same type or the nullable type over that, and the outcome for every
input that is there is the same. -/
theorem bindInput_nullable (hc : catalog.Composed) (hT : T.isValueType = true) (he : e.IsScalar)
    {t : Term} (ht : bindInput catalog e T = .ok t) :
    ∃ t', bindInput catalog e (.nullable T) = .ok t' ∧
      (t'.ty = t.ty ∨ t'.ty = t.ty.asNullable) ∧
      ∀ v, v.conformsTo T = true → evaluate t' [v] = evaluate t [v] := by
  obtain ⟨t', ht', hl⟩ := bind_followsLifted hc hT he t ht trivial
  refine ⟨t', ht', hl.ty.imp_right fun h => ?_, fun v hv => ?_⟩
  · rw [h.2, Ty.asNullable, if_pos h.1]
  · exact hl.agree [v] (.cons ⟨hv, isWellFormed_of_isValueType hT hv⟩ .nil)

/-- The successor of the input as a 64-bit integer against its negation, `Int64?(it + 1) != -it`. -/
theorem bindInput_nullable_successor : ∃ e t t',
    e = .binary .notEqual
      (.nullableConversion ⟨"Int64", 0⟩
        [.binary .add (.it 7) (.literal (.number (.word .int32 (.wrap .int32 1)))) 10])
      (.unary .negate (.it 19) 18) 15 ∧
    bindInput .standard e .int32 = .ok t ∧ bindInput .standard e (.nullable .int32) = .ok t' ∧
    (t'.ty = t.ty ∨ t'.ty = t.ty.asNullable) ∧
    evaluate t' [.int32 (.wrap .int32 5)] = evaluate t [.int32 (.wrap .int32 5)] := by
  obtain ⟨e, he⟩ : ∃ e : Expr, e = .binary .notEqual
      (.nullableConversion ⟨"Int64", 0⟩
        [.binary .add (.it 7) (.literal (.number (.word .int32 (.wrap .int32 1)))) 10])
      (.unary .negate (.it 19) 18) 15 :=
    ⟨_, rfl⟩
  have hscalar : e.IsScalar := by
    rw [he]
    exact .binary (.nullableConversion (.binary (.it 7) (.literal _) nofun nofun nofun))
      (.unary (.it 19)) nofun nofun nofun
  have hok : (bindInput .standard e .int32).toOption.isSome = true := by
    rw [he]
    decide +kernel
  cases ht : bindInput .standard e .int32 with
  | error err =>
      rw [ht] at hok
      cases hok
  | ok t =>
      obtain ⟨t', ht', hty, ho⟩ := bindInput_nullable .standard rfl hscalar ht
      exact ⟨e, t, t', he, ht, ht', hty, ho _ rfl⟩

end Typing

end Elementwise
