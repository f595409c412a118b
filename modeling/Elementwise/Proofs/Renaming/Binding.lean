import Elementwise.Expr.Basic
import Elementwise.Proofs.Substitution.Binding

/-!
Another name for the parameter of a lambda.  The names that refer to the parameter are those with its
key that no inner lambda of the same key hides.  Names of members and of the targets of conversions
refer to no parameter and stay.

Typing does not see what the parameter is called.  Scopes reach typing in two ways only: through the
look-up of names, and through the arguments of calls, which are typed in them.  So two expressions
have the same typing, each in its scopes, if their names find the same parameters and their arguments
have the same typing.
-/

namespace Elementwise

namespace Expr

/-! ### Renaming -/

mutual

/-- The expression with `y` for the name with the key, unless a lambda has `hidden` what the name
means. -/
def renameUnless (key y : String) : (hidden : Bool) → Expr → Expr
  | _, literal l => literal l
  | _, null => null
  | _, it offset => it offset
  | hidden, identifier id => identifier (if !hidden && id.key == key then ⟨y, id.offset⟩ else id)
  | hidden, member object name => member (object.renameUnless key y hidden) name
  | hidden, index object args offset =>
    index (object.renameUnless key y hidden) (renameAll key y hidden args) offset
  | hidden, call callee args offset =>
    call (callee.renameUnless key y hidden) (renameAll key y hidden args) offset
  | hidden, nullableConversion target args => nullableConversion target (renameAll key y hidden args)
  | hidden, unary op operand offset => unary op (operand.renameUnless key y hidden) offset
  | hidden, binary op left right offset =>
    binary op (left.renameUnless key y hidden) (right.renameUnless key y hidden) offset
  | hidden, conditional c t f offset =>
    conditional (c.renameUnless key y hidden) (t.renameUnless key y hidden)
      (f.renameUnless key y hidden) offset
  | hidden, nullPropagation operand offset =>
    nullPropagation (operand.renameUnless key y hidden) offset
  | hidden, array elements offset => array (renameAll key y hidden elements) offset
  | hidden, record members offset => record (renameMembers key y hidden members) offset
  | hidden, lambda param body => lambda param (body.renameUnless key y (hidden || param.key == key))

def renameAll (key y : String) (hidden : Bool) : List Expr → List Expr
  | [] => []
  | e :: es => e.renameUnless key y hidden :: renameAll key y hidden es

def renameMembers (key y : String) (hidden : Bool) : List (Ident × Expr) → List (Ident × Expr)
  | [] => []
  | (name, e) :: members => (name, e.renameUnless key y hidden) :: renameMembers key y hidden members

end

mutual

/-- Whether a name of the key, or a lambda with a parameter of it, is part of the expression. -/
def mentions (key : String) : Expr → Bool
  | literal _ | null | it _ => false
  | identifier id => id.key == key
  | member object _ => object.mentions key
  | index object args _ => object.mentions key || anyMentions key args
  | call callee args _ => callee.mentions key || anyMentions key args
  | nullableConversion _ args => anyMentions key args
  | unary _ operand _ => operand.mentions key
  | binary _ left right _ => left.mentions key || right.mentions key
  | conditional c t f _ => c.mentions key || t.mentions key || f.mentions key
  | nullPropagation operand _ => operand.mentions key
  | array elements _ => anyMentions key elements
  | record members _ => anyMemberMentions key members
  | lambda param body => param.key == key || body.mentions key

def anyMentions (key : String) : List Expr → Bool
  | [] => false
  | e :: es => e.mentions key || anyMentions key es

def anyMemberMentions (key : String) : List (Ident × Expr) → Bool
  | [] => false
  | (_, e) :: members => e.mentions key || anyMemberMentions key members

end

/-- The lambda `x => b` with `y` as the name of its parameter. -/
def renamedLambda (x : Ident) (b : Expr) (y : String) : Expr :=
  lambda ⟨y, x.offset⟩ (b.renameUnless x.key y false)

theorem offset_renameUnless (key y : String) (hidden : Bool) (e : Expr) :
    (e.renameUnless key y hidden).offset = e.offset := by
  cases e with
  | identifier id =>
      rw [renameUnless, offset, offset]
      split <;> rfl
  | _ => rfl

theorem renameUnless_ne_lambda {e : Expr} (h : ∀ param body, e ≠ lambda param body)
    (key y : String) (hidden : Bool) (param : Ident) (body : Expr) :
    e.renameUnless key y hidden ≠ lambda param body := by
  cases e with
  | lambda param body => exact absurd rfl (h param body)
  | _ => exact nofun

/-! ### Places in an expression -/

/-- An expression with a hole in the place of one of its immediate parts. -/
inductive Frame where
  | member (name : Ident)
  | indexed (args : List Expr) (offset : Nat)
  | indexArgument (object : Expr) (before after : List Expr) (offset : Nat)
  | callee (args : List Expr) (offset : Nat)
  | argument (applied : Expr) (before after : List Expr) (offset : Nat)
  | converted (target : Ident) (before after : List Expr)
  | operand (op : UnaryOperator) (offset : Nat)
  | left (op : BinaryOperator) (r : Expr) (offset : Nat)
  | right (op : BinaryOperator) (l : Expr) (offset : Nat)
  | condition (t f : Expr) (offset : Nat)
  | whenTrue (c f : Expr) (offset : Nat)
  | whenFalse (c t : Expr) (offset : Nat)
  | nullPropagation (offset : Nat)
  | element (before after : List Expr) (offset : Nat)
  | recordMember (before : List (Ident × Expr)) (name : Ident) (after : List (Ident × Expr))
      (offset : Nat)
  | body (param : Ident)

def Frame.fill (e : Expr) : Frame → Expr
  | member name => .member e name
  | indexed args offset => .index e args offset
  | indexArgument object before after offset => .index object (before ++ e :: after) offset
  | callee args offset => .call e args offset
  | argument applied before after offset => .call applied (before ++ e :: after) offset
  | converted target before after => .nullableConversion target (before ++ e :: after)
  | operand op offset => .unary op e offset
  | left op r offset => .binary op e r offset
  | right op l offset => .binary op l e offset
  | condition t f offset => .conditional e t f offset
  | whenTrue c f offset => .conditional c e f offset
  | whenFalse c t offset => .conditional c t e offset
  | nullPropagation offset => .nullPropagation e offset
  | element before after offset => .array (before ++ e :: after) offset
  | recordMember before name after offset => .record (before ++ (name, e) :: after) offset
  | body param => .lambda param e

/-- An expression with a hole in the place of one of its parts, at any depth: the frames around the
hole, outermost first. -/
abbrev Context := List Frame

def Context.fill (C : Context) (e : Expr) : Expr :=
  C.foldr (fun frame e => frame.fill e) e

end Expr

namespace Typing

variable {catalog : Catalog} {α : Type}

/-! ### What scopes are for -/

/-- The argument with the typing that it has in the scopes, whatever others it is typed in. -/
def Argument.settle (scopes : List Scope) (arg : Argument) : Argument :=
  { offset := arg.offset
    value := fun _ => arg.value scopes
    body := fun item _ => arg.body item scopes }

/-- A step that uses its scopes for typing its arguments only. -/
def Settles (f : List Argument → List Scope → α) : Prop :=
  ∀ args scopes, f (args.map (·.settle scopes)) [] = f args scopes

theorem Settles.eq {f : List Argument → List Scope → α} (hf : Settles f)
    {args args' : List Argument} {scopes scopes' : List Scope}
    (h : args'.map (·.settle scopes') = args.map (·.settle scopes)) :
    f args' scopes' = f args scopes := by
  rw [← hf, h, hf]

theorem values_settles : Settles values := by
  intro args scopes
  unfold values
  rw [List.mapM_map]
  rfl

theorem plan_settles (item : Ty) (op : QueryOperator) (name : Ident) :
    Settles fun args scopes => Query.plan scopes item op name args := by
  intro args scopes
  cases args with
  | nil => cases op <;> rfl
  | cons arg args =>
      cases args with
      | nil => cases op <;> rfl
      | cons arg' args =>
          -- no operator takes two arguments, and the error tells their number only
          cases op <;> simp only [Query.plan, Query.oneArgument, Query.optionalArgument,
            Query.noArgument, Query.wrongArity, List.map_cons, List.length_cons, List.length_map,
            error_bind]

theorem query_settles (source : Term) (item : Ty) (op : QueryOperator) (name : Ident)
    (conditional : Bool) :
    Settles fun args scopes => query source item op name args conditional scopes := by
  intro args scopes
  have hplan : Query.plan [] item op name (args.map (·.settle scopes)) =
      Query.plan scopes item op name args := plan_settles item op name args scopes
  simp only [query, hplan]

theorem bindStaticCall_settles (s : LibrarySymbol) (name : Ident) :
    Settles (bindStaticCall s name) := by
  intro args scopes
  simp only [bindStaticCall, values_settles args scopes]

theorem bindInstanceCall_settles (receiver : Term) (name : Ident) (np : Bool) :
    Settles fun args scopes => bindInstanceCall receiver name args np scopes := by
  intro args scopes
  simp only [bindInstanceCall, values_settles args scopes]

theorem bindMethodCall_settles (receiver : Term) (name : Ident) (np : Bool) :
    Settles fun args scopes => bindMethodCall receiver name args np scopes := by
  intro args scopes
  simp only [bindMethodCall]
  split
  · exact query_settles _ _ _ _ _ args scopes
  · exact bindInstanceCall_settles _ _ _ args scopes

theorem bindIndex_settles (receiver : Term) (offset : Nat) (np : Bool) :
    Settles fun args scopes => bindIndex receiver args offset np scopes := by
  intro args scopes
  simp only [bindIndex]
  cases indexed? (memberType (isConditional np receiver.ty) receiver.ty) with
  | none => rfl
  | some item =>
      cases args with
      | nil => rfl
      | cons arg args =>
          cases args with
          | nil => rfl
          | cons arg' args => simp only [List.map_cons, List.length_cons, List.length_map]

theorem bindConversion_settles (target : Ty) (name : Ident) :
    Settles (bindConversion target name) := by
  intro args scopes
  cases args with
  | nil => rfl
  | cons arg args =>
      cases args with
      | nil => rfl
      | cons arg' args =>
          simp only [bindConversion, List.map_cons, List.length_cons, List.length_map]

theorem bindNullableConversion_settles (catalog : Catalog) (name : Ident) :
    Settles (bindNullableConversion catalog name) := by
  intro args scopes
  simp only [bindNullableConversion, bindConversion_settles _ _ args scopes]

/-! ### Look-up -/

/-- In `scopes'` the name `y` refers to what the key refers to in `scopes`, unless it is `hidden`,
and every other name refers to the same in both. -/
structure Renames (key y : String) (hidden : Bool) (scopes scopes' : List Scope) : Prop where
  key_ne : key ≠ itKey
  name_ne : Text.fold y ≠ itKey
  renamed : hidden = false → ∃ found, parameter? key scopes = some found ∧
    parameter? (Text.fold y) scopes' = some found
  other : ∀ k, k ≠ Text.fold y → k ≠ key ∨ hidden = true →
    parameter? k scopes' = parameter? k scopes

namespace Renames

variable {key y : String} {hidden : Bool} {scopes scopes' : List Scope}

theorem base (hkey : key ≠ itKey) (hy : Text.fold y ≠ itKey) (item : Ty) (scopes : List Scope) :
    Renames key y false (⟨key, item⟩ :: scopes) (⟨Text.fold y, item⟩ :: scopes) where
  key_ne := hkey
  name_ne := hy
  renamed _ := by
    refine ⟨(0, item), ?_, ?_⟩
    · rw [parameter?_cons, if_pos (beq_self_eq_true key)]
    · rw [parameter?_cons, if_pos (beq_self_eq_true (Text.fold y))]
  other k hk hkey := by
    have hne : k ≠ key := hkey.resolve_right Bool.false_ne_true
    rw [parameter?_cons, parameter?_cons, if_neg (by simpa using hk.symm),
      if_neg (by simpa using hne.symm)]

/-- One more parameter, which hides the renamed one if it has the same key. -/
theorem push (h : Renames key y hidden scopes scopes') {s : Scope} (hs : s.key ≠ Text.fold y) :
    Renames key y (hidden || s.key == key) (s :: scopes) (s :: scopes') where
  key_ne := h.key_ne
  name_ne := h.name_ne
  renamed hvisible := by
    rw [Bool.or_eq_false_iff] at hvisible
    obtain ⟨found, hfound, hfound'⟩ := h.renamed hvisible.1
    refine ⟨(found.1 + 1, found.2), ?_, ?_⟩
    · rw [parameter?_cons, hvisible.2, hfound]
      rfl
    · rw [parameter?_cons, if_neg (by simpa using hs), hfound']
      rfl
  other k hk hkey := by
    rw [parameter?_cons, parameter?_cons]
    split
    · rfl
    · rename_i hsk
      have hkey' : k ≠ key ∨ hidden = true := by
        rcases hkey with hkey | hhidden
        · exact Or.inl hkey
        · rcases Bool.or_eq_true_iff.1 hhidden with hhidden | hself
          · exact Or.inr hhidden
          · exact Or.inl fun hk => hsk (hk ▸ hself)
      rw [h.other k hk hkey']

/-- The item of an argument that is no lambda hides nothing. -/
theorem push_it (h : Renames key y hidden scopes scopes') (item : Ty) :
    Renames key y hidden (⟨itKey, item⟩ :: scopes) (⟨itKey, item⟩ :: scopes') := by
  have hpush := h.push (s := ⟨itKey, item⟩) h.name_ne.symm
  rwa [beq_false_of_ne h.key_ne.symm, Bool.or_false] at hpush

/-- A name is renamed and refers to the parameter, or stays and refers to the same as before. -/
theorem identifier_cases (h : Renames key y hidden scopes scopes') {id : Ident}
    (hid : (id.key == Text.fold y) = false) :
    (∃ found, (Expr.identifier id).renameUnless key y hidden = .identifier ⟨y, id.offset⟩ ∧
      parameter? id.key scopes = some found ∧
      parameter? (Ident.key ⟨y, id.offset⟩) scopes' = some found) ∨
    ((Expr.identifier id).renameUnless key y hidden = .identifier id ∧
      parameter? id.key scopes' = parameter? id.key scopes) := by
  rw [Expr.renameUnless]
  split
  · rename_i hvisible
    rw [Bool.and_eq_true, Bool.not_eq_true', beq_iff_eq] at hvisible
    obtain ⟨found, hfound, hfound'⟩ := h.renamed hvisible.1
    exact Or.inl ⟨found, rfl, hvisible.2 ▸ hfound, hfound'⟩
  · rename_i hsame
    refine Or.inr ⟨rfl, h.other id.key (by simpa using hid) ?_⟩
    by_cases hkey : id.key = key
    · refine Or.inr ?_
      simpa [hkey] using hsame
    · exact Or.inl hkey

end Renames

/-! ### Names -/

section Names

variable {key y : String} {hidden : Bool} {scopes scopes' : List Scope}
  (h : Renames key y hidden scopes scopes')
include h

theorem bindIt_renames (offset : Nat) : bindIt offset scopes' = bindIt offset scopes := by
  rw [bindIt, bindIt, h.other itKey h.name_ne.symm (Or.inl h.key_ne.symm)]

theorem bindIdentifier_renames {id : Ident} (hid : (id.key == Text.fold y) = false) (np : Bool) :
    bind catalog ((Expr.identifier id).renameUnless key y hidden) np scopes' =
      bind catalog (.identifier id) np scopes := by
  rcases h.identifier_cases hid with ⟨found, hrenamed, hfound, hfound'⟩ | ⟨hsame, hother⟩
  · rw [hrenamed, bind, bind, bindName, bindName, hfound, hfound']
  · rw [hsame, bind, bind, bindName, bindName, hother]

theorem symbol?_renames (e : Expr) (he : e.mentions (Text.fold y) = false) :
    symbol? catalog scopes' (e.renameUnless key y hidden) = symbol? catalog scopes e := by
  cases e with
  | identifier id =>
      rcases h.identifier_cases he with ⟨found, hrenamed, hfound, hfound'⟩ | ⟨hsame, hother⟩
      · rw [hrenamed]
        simp only [symbol?, hfound, hfound', Option.isSome_some, if_true]
      · rw [hsame]
        simp only [symbol?, hother]
  | _ => rfl

/-- A call by a bare name is a conversion, unless the name is that of a parameter. -/
theorem bindNamedCall_renames {id : Ident} (hid : (id.key == Text.fold y) = false) (offset : Nat)
    (np : Bool) {args args' : List Expr}
    (hargs : (arguments catalog args').map (·.settle scopes') =
      (arguments catalog args).map (·.settle scopes)) :
    bind catalog (.call ((Expr.identifier id).renameUnless key y hidden) args' offset) np scopes' =
      bind catalog (.call (.identifier id) args offset) np scopes := by
  rcases h.identifier_cases hid with ⟨found, hrenamed, hfound, hfound'⟩ | ⟨hsame, hother⟩
  · rw [hrenamed, bind, bind, hfound, hfound']
    rfl
  · rw [hsame, bind, bind, hother]
    simp only [(bindConversion_settles _ id).eq hargs]

end Names

/-! ### Expressions -/

mutual

theorem bind_renames {key y : String} : (e : Expr) → e.mentions (Text.fold y) = false →
    {hidden : Bool} → {scopes scopes' : List Scope} → Renames key y hidden scopes scopes' →
    (np : Bool) →
    bind catalog (e.renameUnless key y hidden) np scopes' = bind catalog e np scopes
  | .literal l, _, _, _, _, _, _ => by
      rw [Expr.renameUnless, bind, bind]
  | .null, _, _, _, _, _, _ => by
      rw [Expr.renameUnless, bind, bind]
  | .it offset, _, _, _, _, h, _ => by
      rw [Expr.renameUnless, bind, bind, bindIt_renames h]
  | .identifier id, he, _, _, _, h, np => bindIdentifier_renames h he np
  | .member object name, he, _, _, _, h, np => by
      rw [Expr.renameUnless, bind, bind, symbol?_renames h object he, bind_renames object he h np]
  | .index object args offset, he, _, _, _, h, np => by
      obtain ⟨hobject, hargs⟩ := Bool.or_eq_false_iff.1 he
      rw [Expr.renameUnless, bind, bind, bind_renames object hobject h np]
      simp only [(bindIndex_settles _ offset np).eq (arguments_renames args hargs h)]
  | .call callee args offset, he, _, _, _, h, np => by
      obtain ⟨hcallee, hargs⟩ := Bool.or_eq_false_iff.1 he
      have hsettled := arguments_renames args hargs h
      rw [Expr.renameUnless]
      cases callee with
      | identifier id => exact bindNamedCall_renames h hcallee offset np hsettled
      | member object name =>
          rw [Expr.renameUnless, bind, bind, symbol?_renames h object hcallee,
            bind_renames object hcallee h np]
          simp only [(bindStaticCall_settles _ name).eq hsettled,
            (bindMethodCall_settles _ name np).eq hsettled]
      | _ =>
          rw [Expr.renameUnless, bind, bind]
          all_goals exact nofun
  | .nullableConversion target args, he, _, _, _, h, _ => by
      rw [Expr.renameUnless, bind, bind]
      exact (bindNullableConversion_settles catalog target).eq (arguments_renames args he h)
  | .unary op operand offset, he, _, _, _, h, _ => by
      rw [Expr.renameUnless, bind, bind, bind_renames operand he h]
  | .binary op left right offset, he, _, _, _, h, _ => by
      obtain ⟨hleft, hright⟩ := Bool.or_eq_false_iff.1 he
      rw [Expr.renameUnless, bind, bind, bind_renames left hleft h, bind_renames right hright h]
  | .conditional condition whenTrue whenFalse offset, he, _, _, _, h, _ => by
      obtain ⟨hbefore, hfalse⟩ := Bool.or_eq_false_iff.1 he
      obtain ⟨hcondition, htrue⟩ := Bool.or_eq_false_iff.1 hbefore
      rw [Expr.renameUnless, bind, bind, bind_renames condition hcondition h,
        bind_renames whenTrue htrue h, bind_renames whenFalse hfalse h]
  | .nullPropagation operand _, he, _, _, _, h, _ => by
      rw [Expr.renameUnless, bind, bind, bind_renames operand he h]
  | .array elements offset, he, _, _, _, h, _ => by
      rw [Expr.renameUnless, bind, bind, values_settles.eq (arguments_renames elements he h)]
  | .record members _, he, _, _, _, h, _ => by
      rw [Expr.renameUnless, bind, bind, bindMembers_renames members he h]
  | .lambda param _, _, _, _, _, _, _ => by
      rw [Expr.renameUnless, bind, bind]

/-- The arguments of a call have the same typing, each in their scopes. -/
theorem arguments_renames {key y : String} : (args : List Expr) →
    Expr.anyMentions (Text.fold y) args = false → {hidden : Bool} → {scopes scopes' : List Scope} →
    Renames key y hidden scopes scopes' →
    (arguments catalog (Expr.renameAll key y hidden args)).map (·.settle scopes') =
      (arguments catalog args).map (·.settle scopes)
  | [], _, _, _, _, _ => rfl
  | arg :: args, he, _, _, _, h => by
      obtain ⟨harg, hargs⟩ := Bool.or_eq_false_iff.1 he
      rw [Expr.renameAll]
      rcases lambda_or arg with ⟨param, body, rfl⟩ | hplain
      · obtain ⟨hparam, hbody⟩ := Bool.or_eq_false_iff.1 harg
        rw [Expr.renameUnless, arguments, arguments, List.map_cons, List.map_cons,
          arguments_renames args hargs h]
        simp only [Argument.settle]
        have hpush (item : Ty) := h.push (s := ⟨param.key, item⟩) (by simpa using hparam)
        simp only [fun item => bind_renames body hbody (hpush item) false]
      · rw [arguments_cons (Expr.renameUnless_ne_lambda hplain key y _), arguments_cons hplain,
          List.map_cons, List.map_cons, arguments_renames args hargs h]
        simp only [Argument.settle, Expr.offset_renameUnless, bind_renames arg harg h,
          fun item => bind_renames arg harg (h.push_it item) false]

theorem bindMembers_renames {key y : String} : (members : List (Ident × Expr)) →
    Expr.anyMemberMentions (Text.fold y) members = false → {hidden : Bool} →
    {scopes scopes' : List Scope} → Renames key y hidden scopes scopes' →
    {given : List String} →
    bindMembers catalog (Expr.renameMembers key y hidden members) given scopes' =
      bindMembers catalog members given scopes
  | [], _, _, _, _, _, _ => by
      rw [Expr.renameMembers, bindMembers, bindMembers]
  | (name, e) :: members, he, _, _, _, h, _ => by
      obtain ⟨hfirst, hrest⟩ := Bool.or_eq_false_iff.1 he
      rw [Expr.renameMembers, bindMembers, bindMembers, bind_renames e hfirst h,
        bindMembers_renames members hrest h]

end

end Typing

end Elementwise
