import Elementwise.Proofs.Layout.Stage
import Elementwise.Proofs.Renaming.Binding

/-!
A lambda inside of an expression can be exchanged for the same lambda with another name for its
parameter.  What surrounds a part sees of it how it is typed, which symbol it names, and how it is
typed as a callee and as an argument; expressions that are alike in all four can be exchanged
anywhere.
-/

namespace Elementwise

open Elementwise.Expr (Frame Context renamedLambda)
open Relabelling (unplaced)

namespace Typing

variable {catalog : Catalog} {e e' : Expr}

/-! ### Lists of arguments and members -/

theorem arguments_cons_eq (e : Expr) (es : List Expr) :
    arguments catalog (e :: es) = arguments catalog [e] ++ arguments catalog es := by
  rcases lambda_or e with ⟨param, body, rfl⟩ | he
  · rw [arguments, arguments, arguments]
    rfl
  · rw [arguments_cons he, arguments_cons he, arguments]
    rfl

theorem arguments_append (es es' : List Expr) :
    arguments catalog (es ++ es') = arguments catalog es ++ arguments catalog es' := by
  induction es with
  | nil => rw [arguments, List.nil_append, List.nil_append]
  | cons e es ih =>
      rw [List.cons_append, arguments_cons_eq, arguments_cons_eq e es, ih, List.append_assoc]

theorem bindMembers_congr {members members' : List (Ident × Expr)}
    (h : ∀ given scopes,
      bindMembers catalog members' given scopes = bindMembers catalog members given scopes)
    (before : List (Ident × Expr)) (given : List String) (scopes : List Scope) :
    bindMembers catalog (before ++ members') given scopes =
      bindMembers catalog (before ++ members) given scopes := by
  induction before generalizing given with
  | nil => exact h given scopes
  | cons m before ih =>
      obtain ⟨name, e⟩ := m
      rw [List.cons_append, List.cons_append, bindMembers, bindMembers, ih]

/-! ### Expressions that can be exchanged -/

/-- Expressions that are alike for whatever surrounds them. -/
structure Interchangeable (catalog : Catalog) (e e' : Expr) : Prop where
  bind : ∀ np scopes, Typing.bind catalog e' np scopes = Typing.bind catalog e np scopes
  symbol : ∀ scopes, symbol? catalog scopes e' = symbol? catalog scopes e
  call : ∀ args offset np scopes, Typing.bind catalog (.call e' args offset) np scopes =
    Typing.bind catalog (.call e args offset) np scopes
  argument : arguments catalog [e'] = arguments catalog [e]

/-- Whether an expression can be called: names and members can. -/
def isCallee : Expr → Bool
  | .identifier _ | .member _ _ => true
  | _ => false

theorem bind_call_eq_error (h : isCallee e = false) (args : List Expr) (offset : Nat) (np : Bool)
    (scopes : List Scope) :
    bind catalog (.call e args offset) np scopes = .error (.notCallable offset) := by
  cases e with
  | identifier | member => cases h
  | _ =>
      rw [bind]
      all_goals
        intros
        contradiction

/-- Whether the typing of a callee or an argument is that of the expression by itself. -/
def isCompound : Expr → Bool
  | .identifier _ | .member _ _ | .lambda _ _ => false
  | _ => true

theorem isCallee_of_isCompound (h : isCompound e = true) : isCallee e = false := by
  cases e with
  | identifier | member => cases h
  | _ => rfl

theorem ne_lambda_of_isCompound (h : isCompound e = true) (param : Ident) (body : Expr) :
    e ≠ .lambda param body := by
  rintro rfl
  cases h

theorem symbol?_eq_none (h : isCallee e = false) (scopes : List Scope) :
    symbol? catalog scopes e = none := by
  cases e with
  | identifier => cases h
  | _ => rfl

/-- An argument that is no lambda. -/
theorem arguments_singleton (h : ∀ param body, e ≠ .lambda param body) :
    arguments catalog [e] =
      [{ offset := e.offset
         value := fun scopes => bind catalog e false scopes
         body := fun item scopes => bind catalog e false (⟨itKey, item⟩ :: scopes) }] := by
  rw [arguments_cons h, arguments]

namespace Interchangeable

theorem of_isCompound (he : isCompound e = true) (he' : isCompound e' = true)
    (hoffset : e'.offset = e.offset)
    (hbind : ∀ np scopes, Typing.bind catalog e' np scopes = Typing.bind catalog e np scopes) :
    Interchangeable catalog e e' where
  bind := hbind
  symbol scopes := by
    rw [symbol?_eq_none (isCallee_of_isCompound he), symbol?_eq_none (isCallee_of_isCompound he')]
  call args offset np scopes := by
    rw [bind_call_eq_error (isCallee_of_isCompound he),
      bind_call_eq_error (isCallee_of_isCompound he')]
  argument := by
    rw [arguments_singleton (ne_lambda_of_isCompound he),
      arguments_singleton (ne_lambda_of_isCompound he'), hoffset]
    simp only [hbind]

theorem arguments_eq (h : Interchangeable catalog e e') (before after : List Expr) :
    arguments catalog (before ++ e' :: after) = arguments catalog (before ++ e :: after) := by
  rw [arguments_append, arguments_append, arguments_cons_eq, arguments_cons_eq e, h.argument]

theorem member (h : Interchangeable catalog e e') (name : Ident) :
    Interchangeable catalog (.member e name) (.member e' name) where
  bind np scopes := by
    rw [Typing.bind, Typing.bind, h.symbol, h.bind]
  symbol _ := rfl
  call args offset np scopes := by
    rw [Typing.bind, Typing.bind, h.symbol, h.bind]
  argument := by
    have hmember (e param body) : Expr.member e name ≠ .lambda param body := Expr.noConfusion
    rw [arguments_singleton (hmember e), arguments_singleton (hmember e')]
    simp only [Typing.bind, h.symbol, h.bind]
    rfl

theorem lambda (h : Interchangeable catalog e e') (param : Ident) :
    Interchangeable catalog (.lambda param e) (.lambda param e') where
  bind np scopes := by
    rw [Typing.bind, Typing.bind]
  symbol _ := rfl
  call args offset np scopes := by
    rw [bind_call_eq_error rfl, bind_call_eq_error rfl]
  argument := by
    simp only [arguments, h.bind]

/-- What surrounds expressions that can be exchanged can be exchanged. -/
theorem frame (h : Interchangeable catalog e e') (F : Frame) :
    Interchangeable catalog (F.fill e) (F.fill e') := by
  cases F with
  | member name => exact h.member name
  | body param => exact h.lambda param
  | indexed | operand | left | right | condition | whenTrue | whenFalse | nullPropagation =>
      refine of_isCompound rfl rfl rfl fun np scopes => ?_
      rw [Frame.fill, Frame.fill, Typing.bind, Typing.bind, h.bind]
  | indexArgument | converted | element =>
      refine of_isCompound rfl rfl rfl fun np scopes => ?_
      rw [Frame.fill, Frame.fill, Typing.bind, Typing.bind, h.arguments_eq]
  | callee args offset =>
      refine of_isCompound rfl rfl rfl fun np scopes => ?_
      rw [Frame.fill, Frame.fill, h.call]
  | argument applied before after offset =>
      refine of_isCompound rfl rfl rfl fun np scopes => ?_
      rw [Frame.fill, Frame.fill]
      cases applied with
      | identifier | member => rw [Typing.bind, Typing.bind, h.arguments_eq]
      | _ => rw [bind_call_eq_error rfl, bind_call_eq_error rfl]
  | recordMember before name after offset =>
      refine of_isCompound rfl rfl rfl fun np scopes => ?_
      have hrest (given scopes) : bindMembers catalog ((name, e') :: after) given scopes =
          bindMembers catalog ((name, e) :: after) given scopes := by
        rw [bindMembers, bindMembers, h.bind]
      rw [Frame.fill, Frame.fill, Typing.bind, Typing.bind, bindMembers_congr hrest]

theorem context (h : Interchangeable catalog e e') (C : Context) :
    Interchangeable catalog (C.fill e) (C.fill e') := by
  induction C with
  | nil => exact h
  | cons F C ih => exact ih.frame F

/-- As an argument the renamed lambda has the same body; everywhere else lambdas are refused. -/
theorem renamedLambda {x : Ident} {b : Expr} {y : String} (hx : x.key ≠ itKey)
    (hy : Text.fold y ≠ itKey) (hb : b.mentions (Text.fold y) = false) :
    Interchangeable catalog (.lambda x b) (renamedLambda x b y) where
  bind np scopes := by
    rw [Expr.renamedLambda, Typing.bind, Typing.bind]
  symbol _ := rfl
  call args offset np scopes := by
    rw [bind_call_eq_error rfl, bind_call_eq_error rfl]
  argument := by
    have hbody : ∀ item scopes,
        Typing.bind catalog (b.renameUnless x.key y false) false (⟨Text.fold y, item⟩ :: scopes) =
          Typing.bind catalog b false (⟨x.key, item⟩ :: scopes) :=
      fun item scopes => bind_renames b hb (.base hx hy item scopes) false
    simp only [Expr.renamedLambda, arguments, Ident.key] at hbody ⊢
    simp only [hbody]

end Interchangeable

/-! ### Whole expressions -/

variable {input : Ty} {x : Ident} {b : Expr} {y : String}

/-- Another name for the parameter of a lambda anywhere in an expression: a name that is not `it` and
that no name or parameter in the body has.  The renamed expression is the same typed expression or
fails with the same error; wherever its parts stand in a text, at most the offset of the error is
another. -/
theorem bindInput_renamedLambda (hx : x.key ≠ itKey) (hy : Text.fold y ≠ itKey)
    (hb : b.mentions (Text.fold y) = false) (C : Context) :
    bindInput catalog (C.fill (renamedLambda x b y)) input =
        bindInput catalog (C.fill (.lambda x b)) input ∧
      ∀ e' : Expr, e'.eraseOffsets = (C.fill (renamedLambda x b y)).eraseOffsets →
        (bindInput catalog e' input).mapError unplaced.typeError =
          (bindInput catalog (C.fill (.lambda x b)) input).mapError unplaced.typeError := by
  have hsame : bindInput catalog (C.fill (renamedLambda x b y)) input =
      bindInput catalog (C.fill (.lambda x b)) input :=
    ((Interchangeable.renamedLambda hx hy hb).context C).bind false _
  have herase (e : Expr) : (bindInput catalog e.eraseOffsets input).mapError unplaced.typeError =
      (bindInput catalog e input).mapError unplaced.typeError :=
    (bind_relabel unplaced catalog e (.inr fun _ => rfl) false _).mapError_eq
  refine ⟨hsame, fun e' he' => ?_⟩
  rw [← herase e', he', herase, hsame]

/-- In `it.Select(x => x.Where(z => z > X.Count()).Select(x => -x))` the outer parameter is used in
two spellings and inside of a lambda, and hidden in the last one. -/
theorem bindInput_renamedLambda_hidden : ∃ (C : Context) (x : Ident) (b : Expr),
    C = [.argument (.member (.it 0) ⟨"Select", 3⟩) [] [] 9] ∧ x = ⟨"x", 10⟩ ∧
    b = .call (.member
        (.call (.member (.identifier ⟨"x", 15⟩) ⟨"Where", 17⟩)
          [.lambda ⟨"z", 23⟩ (.binary .greaterThan (.identifier ⟨"z", 28⟩)
            (.call (.member (.identifier ⟨"X", 32⟩) ⟨"Count", 34⟩) [] 39) 30)] 22)
        ⟨"Select", 43⟩)
      [.lambda ⟨"x", 50⟩ (.unary .negate (.identifier ⟨"x", 56⟩) 55)] 49 ∧
    x.key ≠ itKey ∧ Text.fold "row" ≠ itKey ∧ b.mentions (Text.fold "row") = false ∧
    (bindInput .standard (C.fill (.lambda x b)) (.array (.array .int32))).toOption.isSome = true ∧
    bindInput .standard (C.fill (renamedLambda x b "row")) (.array (.array .int32)) =
      bindInput .standard (C.fill (.lambda x b)) (.array (.array .int32)) := by
  refine ⟨_, _, _, rfl, rfl, rfl, by decide, by decide, by decide, by decide +kernel, ?_⟩
  exact (bindInput_renamedLambda (by decide) (by decide) (by decide) _).1

end Typing

end Elementwise
