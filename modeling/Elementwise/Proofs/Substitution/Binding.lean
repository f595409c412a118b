import Elementwise.Proofs.Soundness.Binding
import Elementwise.Proofs.Substitution.Typing

/-!
The induction over expressions: what a literal in the place of a name does to the typing of an
expression.  Both directions are proved together, as the two values of `named`.
-/

namespace Elementwise

namespace Typing

open Simulation

variable {catalog : Catalog} {key : String} {l : Literal} {outer inner : List Scope}
  {named : Bool}

/-- The typing of the expression on a side. -/
abbrev bindSide (catalog : Catalog) (key : String) (l : Literal) (outer inner : List Scope)
    (e : Expr) (np : Bool) (named : Bool) : Typed Term :=
  bind catalog (e.replaceUnless key l (hidden key named inner)) np
    (sideScopes key l outer named inner)

/-! ### Names -/

theorem bindLiteral_eq (l : Literal) : bindLiteral l = .constant l.value (bindLiteral l).ty := by
  cases l <;> rfl

/-- On the side without the parameter the literal stands for its name. -/
theorem replaceUnless_of_visible {id : Ident} (h : inner.any (·.key == id.key) = false) :
    (Expr.identifier id).replaceUnless id.key l (hidden id.key false inner) = .literal l := by
  rw [Expr.replaceUnless, hidden, h, beq_self_eq_true]
  rfl

theorem replaceUnless_named (e : Expr) :
    e.replaceUnless key l (hidden key true inner) = e :=
  Expr.replaceUnless_hidden key l e

/-- On the other side the name finds the parameter. -/
theorem parameter?_named {name : String} (h : inner.any (·.key == name) = false) :
    parameter? name (sideScopes name l outer true inner) =
      some (inner.length, (bindLiteral l).ty) :=
  parameter?_append_self (s := ⟨name, (bindLiteral l).ty⟩) outer h

theorem isSome_parameter?_sides {name : String}
    (h : key ≠ name ∨ inner.any (·.key == name) = true) :
    (parameter? name (sideScopes key l outer true inner)).isSome =
      (parameter? name (sideScopes key l outer false inner)).isSome := by
  have hlookup := parameter?_sides l outer inner h
  generalize parameter? name (sideScopes key l outer true inner) = p,
    parameter? name (sideScopes key l outer false inner) = p' at hlookup
  cases hlookup <;> rfl

theorem isSome_parameter?_side {name : String}
    (h : key ≠ name ∨ inner.any (·.key == name) = true) :
    (parameter? name (sideScopes key l outer (!named) inner)).isSome =
      (parameter? name (sideScopes key l outer named inner)).isSome := by
  cases named with
  | true => exact (isSome_parameter?_sides h).symm
  | false => exact isSome_parameter?_sides h

theorem bindIt_sides (hkey : key ≠ itKey) (offset : Nat) (np : Bool) :
    SideFollows l outer named inner (bindSide catalog key l outer inner (.it offset) np) := by
  refine sideFollows_of_alike ?_
  have hlookup := parameter?_sides l outer inner (Or.inl hkey)
  unfold bindSide
  rw [Expr.replaceUnless, Expr.replaceUnless, bind, bind]
  unfold bindIt
  generalize parameter? itKey (sideScopes key l outer true inner) = p,
    parameter? itKey (sideScopes key l outer false inner) = p' at hlookup
  cases hlookup with
  | none => exact .error
  | some h => exact .ok h

theorem bindIdentifier_sides (id : Ident) (np : Bool) :
    SideFollows l outer named inner (bindSide catalog key l outer inner (.identifier id) np) := by
  refine sideFollows_of_alike ?_
  unfold bindSide
  rcases identifier_cases key l inner id with ⟨rfl, hvisible⟩ | ⟨hsame, hother⟩
  · -- the name means the parameter, which is a literal on the other side
    have hterm : Instantiates l.value outer.length inner.length
        (.parameter inner.length (bindLiteral l).ty) (bindLiteral l) := by
      refine ⟨?_, decide_eq_true (by omega)⟩
      rw [Term.instantiate_parameter_self, ← bindLiteral_eq]
    rw [replaceUnless_of_visible hvisible, replaceUnless_named, bind, bind, bindName,
      parameter?_named hvisible]
    exact .ok hterm
  · have hlookup := parameter?_sides l outer inner hother
    rw [hsame, hsame, bind, bind]
    unfold bindName
    generalize parameter? id.key (sideScopes key l outer true inner) = p,
      parameter? id.key (sideScopes key l outer false inner) = p' at hlookup
    cases hlookup with
    | none =>
        dsimp only
        split
        · exact .error
        · exact .error
    | some h => exact .ok h

/-- What stands before a dot is the same symbol on both sides, or none. -/
theorem symbol?_sides (object : Expr) :
    symbol? catalog (sideScopes key l outer true inner)
        (object.replaceUnless key l (hidden key true inner)) =
      symbol? catalog (sideScopes key l outer false inner)
        (object.replaceUnless key l (hidden key false inner)) := by
  cases object with
  | identifier id =>
      rcases identifier_cases key l inner id with ⟨rfl, hvisible⟩ | ⟨hsame, hother⟩
      · rw [replaceUnless_of_visible hvisible, replaceUnless_named]
        simp only [symbol?, parameter?_named hvisible, Option.isSome_some, if_true]
      · rw [hsame, hsame]
        simp only [symbol?, isSome_parameter?_sides hother]
  | _ => rfl

theorem symbol?_side (object : Expr) :
    symbol? catalog (sideScopes key l outer (!named) inner)
        (object.replaceUnless key l (hidden key (!named) inner)) =
      symbol? catalog (sideScopes key l outer named inner)
        (object.replaceUnless key l (hidden key named inner)) := by
  cases named with
  | true => exact (symbol?_sides object).symm
  | false => exact symbol?_sides object

/-! ### Expressions -/

theorem replaceUnless_ne_lambda {e : Expr} (h : ∀ param body, e ≠ .lambda param body)
    (hidden : Bool) (param : Ident) (body : Expr) :
    e.replaceUnless key l hidden ≠ .lambda param body := by
  cases e with
  | lambda p b => exact absurd rfl (h p b)
  | identifier id =>
      rw [Expr.replaceUnless]
      split
      · exact nofun
      · exact nofun
  | _ => exact nofun

/-- A lambda, or what is none. -/
theorem lambda_or (e : Expr) :
    (∃ param body, e = .lambda param body) ∨ ∀ param body, e ≠ .lambda param body := by
  cases e with
  | lambda param body => exact Or.inl ⟨param, body, rfl⟩
  | _ => exact Or.inr fun _ _ h => by cases h

/-- A call by a bare name is a conversion, unless the name is that of a parameter. -/
theorem bindNamedCall_sides (id : Ident) (offset : Nat) (np : Bool) {args args' : List Expr}
    (hargs : List.Forall₂ ((replacement l.value outer.length named).ArgumentFollows inner.length
        (sideScopes key l outer named inner) (sideScopes key l outer (!named) inner))
      (arguments catalog args) (arguments catalog args')) :
    Follows ((replacement l.value outer.length named).Good inner.length)
      ((replacement l.value outer.length named).rel inner.length)
      (bind catalog (.call ((Expr.identifier id).replaceUnless key l (hidden key named inner)) args
        offset) np (sideScopes key l outer named inner))
      (bind catalog (.call ((Expr.identifier id).replaceUnless key l (hidden key (!named) inner))
        args' offset) np (sideScopes key l outer (!named) inner)) := by
  rcases identifier_cases key l inner id with ⟨rfl, hvisible⟩ | ⟨hsame, hother⟩
  · -- neither a parameter nor a literal can be called
    cases named with
    | true =>
        rw [replaceUnless_named, bind, parameter?_named hvisible]
        exact .of_error
    | false =>
        rw [replaceUnless_of_visible hvisible, bind]
        · exact .of_error
        · intro id h
          cases h
        · intro object name h
          cases h
  · rw [hsame, hsame, bind, bind, isSome_parameter?_side hother]
    split
    · exact .of_error
    · exact .bind_same fun target => bindConversion_follows hargs target id

mutual

theorem bind_sides (hkey : key ≠ itKey) : (e : Expr) → (named : Bool) → (inner : List Scope) →
    (np : Bool) → SideFollows l outer named inner (bindSide catalog key l outer inner e np)
  | .literal l', _, _, _ => by
      refine sideFollows_of_alike ?_
      unfold bindSide
      rw [Expr.replaceUnless, Expr.replaceUnless, bind, bind, bindLiteral_eq]
      exact .ok ((instantiation l.value outer.length).constant _ _ _)
  | .null, _, _, _ => by
      refine sideFollows_of_alike ?_
      unfold bindSide
      rw [Expr.replaceUnless, Expr.replaceUnless, bind, bind]
      exact .ok ((instantiation l.value outer.length).constant _ _ _)
  | .it offset, _, _, np => bindIt_sides hkey offset np
  | .identifier id, _, _, np => bindIdentifier_sides id np
  | .member object name, named, inner, np => by
      unfold SideFollows bindSide
      rw [Expr.replaceUnless, Expr.replaceUnless, bind, bind]
      refine symbol_follows ?_ (Or.inl (symbol?_side object))
        fun s _ => bindConstant_follows s name
      exact bind_follows (bind_sides hkey object named inner np)
        (fun t => bindProperty_keeps t name np) fun _ _ => bindProperty_follows name np
  | .index object args offset, named, inner, np => by
      unfold SideFollows bindSide
      rw [Expr.replaceUnless, Expr.replaceUnless, bind, bind]
      exact bind_follows (bind_sides hkey object named inner np)
        (fun t => bindIndex_keeps t np _ _ offset)
        fun _ _ => bindIndex_follows (arguments_sides hkey args named inner) offset np
  | .call callee args offset, named, inner, np => by
      have hargs := arguments_sides hkey args named inner
      unfold SideFollows bindSide
      cases callee with
      | identifier id =>
          rw [Expr.replaceUnless.eq_def, Expr.replaceUnless.eq_def key l _ (.call ..)]
          exact bindNamedCall_sides id offset np hargs
      | member object name =>
          rw [Expr.replaceUnless, Expr.replaceUnless]
          rw [Expr.replaceUnless, Expr.replaceUnless, bind, bind]
          refine symbol_follows ?_ (Or.inl (symbol?_side object)) fun s _ =>
            bindStaticCall_follows hargs (fun b _ => replacement_offered named b) name
          exact bind_follows (bind_sides hkey object named inner np)
            (fun t => bindMethodCall_keeps t name np _ _)
            fun _ _ => bindMethodCall_follows hargs name np
      | _ =>
          rw [Expr.replaceUnless, bind]
          · exact .of_error
          · exact nofun
          · exact nofun
  | .nullableConversion target args, named, inner, _ => by
      unfold SideFollows bindSide
      rw [Expr.replaceUnless, Expr.replaceUnless, bind, bind]
      refine .bind_same fun t => ?_
      split
      · exact bindConversion_follows (arguments_sides hkey args named inner) t.asNullable target
      · exact .of_error
  | .unary op operand offset, named, inner, _ => by
      unfold SideFollows bindSide
      rw [Expr.replaceUnless, Expr.replaceUnless, bind, bind]
      exact unary_follows op offset (bind_sides hkey operand named inner false)
  | .binary op left right offset, named, inner, _ => by
      unfold SideFollows bindSide
      rw [Expr.replaceUnless, Expr.replaceUnless, bind, bind]
      exact binary_follows op offset (bind_sides hkey left named inner false)
        (bind_sides hkey right named inner false)
  | .conditional condition whenTrue whenFalse offset, named, inner, _ => by
      unfold SideFollows bindSide
      rw [Expr.replaceUnless, Expr.replaceUnless, bind, bind]
      exact conditional_follows offset (bind_sides hkey condition named inner false)
        (bind_sides hkey whenTrue named inner false) (bind_sides hkey whenFalse named inner false)
  | .nullPropagation operand _, named, inner, _ => by
      unfold SideFollows bindSide
      rw [Expr.replaceUnless, Expr.replaceUnless, bind, bind]
      exact bind_sides hkey operand named inner true
  | .array elements offset, named, inner, _ => by
      unfold SideFollows bindSide
      rw [Expr.replaceUnless, Expr.replaceUnless, bind, bind]
      exact bindArray_follows offset (values_follows (arguments_sides hkey elements named inner))
  | .record members _, named, inner, _ => by
      unfold SideFollows bindSide
      rw [Expr.replaceUnless, Expr.replaceUnless, bind, bind]
      exact record_follows (bindMembers_sides hkey members named inner [])
  | .lambda param _, _, _, _ => by
      refine sideFollows_of_alike ?_
      unfold bindSide
      rw [Expr.replaceUnless, Expr.replaceUnless, bind, bind]
      exact .error

theorem arguments_sides (hkey : key ≠ itKey) : (args : List Expr) → (named : Bool) →
    (inner : List Scope) →
    List.Forall₂ ((replacement l.value outer.length named).ArgumentFollows inner.length
        (sideScopes key l outer named inner) (sideScopes key l outer (!named) inner))
      (arguments catalog (Expr.replaceAll key l (hidden key named inner) args))
      (arguments catalog (Expr.replaceAll key l (hidden key (!named) inner) args))
  | [], _, _ => by
      rw [Expr.replaceAll, Expr.replaceAll, arguments]
      exact .nil
  | arg :: args, named, inner => by
      rw [Expr.replaceAll, Expr.replaceAll]
      rcases lambda_or arg with ⟨param, body, rfl⟩ | harg
      · rw [Expr.replaceUnless, Expr.replaceUnless, arguments, arguments]
        refine .cons ⟨.of_error, fun item => ?_⟩ (arguments_sides hkey args named inner)
        have hbody := bind_sides hkey body named (⟨param.key, item⟩ :: inner) false
        unfold SideFollows bindSide at hbody
        rwa [hidden_cons, hidden_cons] at hbody
      · rw [arguments_cons (replaceUnless_ne_lambda harg _),
          arguments_cons (replaceUnless_ne_lambda harg _)]
        refine .cons ⟨bind_sides hkey arg named inner false, fun item => ?_⟩
          (arguments_sides hkey args named inner)
        have hbody := bind_sides hkey arg named (⟨itKey, item⟩ :: inner) false
        unfold SideFollows bindSide at hbody
        rwa [hidden_cons, hidden_cons, beq_false_of_ne hkey.symm, Bool.or_false, Bool.or_false]
          at hbody

theorem bindMembers_sides (hkey : key ≠ itKey) : (members : List (Ident × Expr)) →
    (named : Bool) → (inner : List Scope) → (given : List String) →
    Follows (fun m => (replacement l.value outer.length named).AllGood inner.length m.2)
      ((replacement l.value outer.length named).FieldsRel inner.length)
      (bindMembers catalog (Expr.replaceMembers key l (hidden key named inner) members) given
        (sideScopes key l outer named inner))
      (bindMembers catalog (Expr.replaceMembers key l (hidden key (!named) inner) members) given
        (sideScopes key l outer (!named) inner))
  | [], _, _, _ => by
      rw [Expr.replaceMembers, Expr.replaceMembers, bindMembers, bindMembers]
      exact .ok ⟨rfl, .nil⟩
  | (name, e) :: members, named, inner, given => by
      rw [Expr.replaceMembers, Expr.replaceMembers, bindMembers, bindMembers]
      split
      · exact .of_error
      · exact field_follows name.name (bind_sides hkey e named inner false)
          (bindMembers_sides hkey members named inner (name.key :: given))

end

end Typing

end Elementwise
