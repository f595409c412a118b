import Elementwise.Proofs.Nullable.Conversion
import Elementwise.Proofs.Propagation.Binding

/-!
The text of a value can be asked for in three ways: by the method `ToString` that all values have, by
`Convert.ToString`, and by putting an expression after the empty string.  All three have a type
wherever the expression has one, and the same outcome.  For `Convert.ToString` this needs its overloads:
exactly one of them is the best for every type, and it takes the argument as it is.
-/

namespace Elementwise

open Number (NumericKind)

/-! ### Overloads of one parameter -/

namespace Typing

variable {types : List Ty} {p result : Ty} {b : Builtin} {arg c : Term} {name : Ident}

/-- The types to which `t` converts and that convert to all those types. -/
def closestTypes (types : List Ty) (t : Ty) : List Ty :=
  let targets := types.filter (isImplicit t)
  targets.filter fun p => targets.all (isImplicit p)

/-- The overload with a parameter of the type, of a function that does the same for all of them. -/
def overloadOn (result : Ty) (b : Builtin) (t : Ty) : Signature :=
  ⟨[t], result, b⟩

theorem applicable_overloadOn (types : List Ty) (arg : Term) :
    (types.map (overloadOn result b)).filter (Overload.applies · [arg]) =
      (types.filter (isImplicit arg.ty)).map (overloadOn result b) := by
  rw [List.filter_map]
  congr 1
  refine List.filter_congr fun t _ => ?_
  simp [overloadOn, Overload.applies]

theorem best_overloadOn (types : List Ty) :
    Overload.best (types.map (overloadOn result b)) =
      (types.filter fun p => types.all (isImplicit p)).map (overloadOn result b) := by
  rw [Overload.best, List.filter_map]
  congr 1
  refine List.filter_congr fun p _ => ?_
  simp [overloadOn, Overload.atLeastAsGood, List.all_map, Function.comp_def]

/-- A call goes to the overload on the closest type if there is only one. -/
theorem resolve_overloadOn (h : closestTypes types arg.ty = [p]) (hc : arg.coerceTo? p = some c) :
    resolve (types.map (overloadOn result b)) [arg] name = .ok (overloadOn result b p, [c]) := by
  have htargets : types.filter (isImplicit arg.ty) ≠ [] := by
    intro hnil
    rw [closestTypes, hnil] at h
    cases h
  have hcandidates : (types.map (overloadOn result b)).filter (·.params.length == [arg].length) =
      types.map (overloadOn result b) := by
    refine List.filter_eq_self.2 fun s hs => ?_
    obtain ⟨t, -, rfl⟩ := List.mem_map.1 hs
    rfl
  have htypes : types ≠ [] := by
    rintro rfl
    exact htargets rfl
  unfold resolve
  simp only [hcandidates, applicable_overloadOn, List.isEmpty_iff, List.map_eq_nil_iff, htargets,
    htypes, if_false]
  rw [best_overloadOn, show List.filter _ _ = [p] from h]
  simp only [List.map_cons, List.map_nil, overloadOn, Overload.coerceAll, hc]
  rfl

/-! ### The overloads of `Convert.ToString` -/

/-- The types that `Convert` converts from. -/
def convertSources : List Ty :=
  .boolean :: NumericKind.all.map .numeric ++ [.string, .object]

/-- The type in which `Convert` takes values of a type. -/
def convertSource : Ty → Ty
  | .boolean => .boolean
  | .numeric k => .numeric k
  | .null | .string => .string
  | _ => .object

theorem closestTypes_convertSources (t : Ty) :
    closestTypes convertSources t = [convertSource t] := by
  cases t with
  | numeric k =>
      cases k with
      | word k => cases k <;> rfl
      | _ => rfl
  | _ => rfl

/-- A value is taken by `Convert` as it is. -/
theorem exists_coerceTo?_convertSource (t : Term) :
    ∃ c, t.coerceTo? (convertSource t.ty) = some c ∧
      ∀ env, Eval.evaluate c env = Eval.evaluate t env := by
  have hsteps : ∃ steps, implicitSteps? t.ty (convertSource t.ty) = some steps ∧
      ∀ v, run steps v = .ok v := by
    cases t.ty with
    | boolean | string | object => exact ⟨[], rfl, fun _ => rfl⟩
    | numeric k => exact ⟨[], by rw [convertSource, implicitSteps?.eq_def, if_pos rfl], fun _ => rfl⟩
    | _ => exact ⟨[(_, _)], rfl, fun _ => rfl⟩
  obtain ⟨steps, hsteps, hrun⟩ := hsteps
  obtain ⟨c, hc, hevaluate⟩ := exists_coerceTo? hsteps
  refine ⟨c, hc, fun env => ?_⟩
  rw [hevaluate, funext hrun]
  cases Eval.evaluate t env <;> rfl

theorem convert_member?_toString :
    Library.convert.member? "ToString" =
      some (.method "ToString" (convertSources.map (overloadOn .string (.convert .string)))) :=
  rfl

end Typing

/-! ### Three expressions -/

namespace Expr

/-- `(e).ToString()` -/
def displayed (e : Expr) (nameOffset callOffset : Nat) : Expr :=
  .call (.member e ⟨"ToString", nameOffset⟩) [] callOffset

/-- `Convert.ToString(e)` -/
def convertedToString (e : Expr) (classOffset nameOffset callOffset : Nat) : Expr :=
  .call (.member (.identifier ⟨"Convert", classOffset⟩) ⟨"ToString", nameOffset⟩) [e] callOffset

/-- `"" + (e)` -/
def appendedToEmpty (e : Expr) (offset : Nat) : Expr :=
  .binary .add (.literal (.string "")) e offset

end Expr

namespace Typing

open Eval

variable {catalog : Catalog} {scopes : List Scope} {e : Expr} {np : Bool} {input : Ty} {t : Term}

/-- The term is a string, namely the text of what the other term is. -/
structure Displays (t d : Term) : Prop where
  ty : d.ty = .string
  evaluate : ∀ env, evaluate d env = (evaluate t env).map fun v => .string v.text

/-- What has a type is no name of a symbol. -/
theorem symbol?_of_bind (h : bind catalog e np scopes = .ok t) : symbol? catalog scopes e = none := by
  cases e with
  | identifier id =>
      rw [bind, bindName] at h
      split at h
      · rename_i hfound
        rw [symbol?, hfound]
        rfl
      · split at h <;> cases h
  | _ => rfl

theorem exists_bind_displayed (h : bind catalog e false scopes = .ok t) (o₁ o₂ : Nat) :
    ∃ d, bind catalog (e.displayed o₁ o₂) false scopes = .ok d ∧ Displays t d := by
  have hcall : bind catalog (e.displayed o₁ o₂) false scopes =
      bindMethodCall t ⟨"ToString", o₁⟩ [] false scopes := by
    rw [Expr.displayed, bind, symbol?_of_bind h]
    simp only [h, ok_bind, arguments]
  have hinstance : bindMethodCall t ⟨"ToString", o₁⟩ [] false scopes =
      .ok (.call .toText [t] false .string) := by
    have hname : Text.sameIgnoringAsciiCase "ToString" "ToString" = true := by decide
    have hquery : QueryOperator.ofName? "ToString" = none := by decide
    have hmember : Member.find? t.ty.members "ToString" =
        some (.single "ToString" [] .string .toText) :=
      List.find?_cons_of_pos hname
    have hmethod : bindMethodCall t ⟨"ToString", o₁⟩ [] false scopes =
        bindInstanceCall t ⟨"ToString", o₁⟩ [] false scopes := by
      unfold bindMethodCall
      simp only [hquery]
      split
      · rename_i hop
        cases hop
      · rfl
    rw [hmethod, bindInstanceCall]
    simp only [isConditional, Bool.false_and, memberType, Bool.false_eq_true, if_false, method,
      hmember, Member.single]
    rfl
  refine ⟨_, hcall.trans hinstance, rfl, fun env => ?_⟩
  rw [evaluate, evaluateArguments, evaluateAll]
  cases evaluate t env <;> rfl

theorem exists_bind_convertedToString (hcatalog : catalog.lookup "Convert" = some Library.convert)
    (hscopes : parameter? "convert" scopes = none) (h : bind catalog e false scopes = .ok t)
    (o₁ o₂ o₃ : Nat) :
    ∃ d, bind catalog (e.convertedToString o₁ o₂ o₃) false scopes = .ok d ∧ Displays t d := by
  obtain ⟨c, hc, hsame⟩ := exists_coerceTo?_convertSource t
  have hkey : Text.fold "Convert" = "convert" := by decide +kernel
  have hsymbol : symbol? catalog scopes (.identifier ⟨"Convert", o₁⟩) = some Library.convert := by
    rw [symbol?, Ident.key, hkey, hscopes]
    exact hcatalog
  have hvalue : values (arguments catalog [e]) scopes = .ok [t] := by
    have hlambda : ∀ param body, e ≠ .lambda param body := by
      rintro param body rfl
      cases h
    rw [values, arguments_cons hlambda, arguments, List.mapM_cons]
    simp only [h, ok_bind]
    rfl
  have hresolve : overloadedCall (convertSources.map (overloadOn .string (.convert .string))) [t]
      ⟨"ToString", o₂⟩ = .ok (overloadOn .string (.convert .string) (convertSource t.ty), [c]) := by
    rw [overloadedCall, resolve_overloadOn (closestTypes_convertSources t.ty) hc]
    rfl
  refine ⟨.call (.convert .string) [c] false .string, ?_, rfl, fun env => ?_⟩
  · have hmethod : method Library.convert.members Library.convert.name ⟨"ToString", o₂⟩ =
        .ok (convertSources.map (overloadOn .string (.convert .string))) := by
      rw [method, show Member.find? _ _ = _ from convert_member?_toString]
    rw [Expr.convertedToString, bind, hsymbol]
    simp only [bindStaticCall, hmethod, hvalue, ok_bind, hresolve]
    rfl
  · rw [evaluate, evaluateArguments, evaluateAll, hsame]
    cases evaluate t env <;> rfl

theorem exists_bind_appendedToEmpty (h : bind catalog e false scopes = .ok t) (o : Nat) :
    ∃ d, bind catalog (e.appendedToEmpty o) false scopes = .ok d ∧ Displays t d := by
  refine ⟨.binary .concat (.constant (.string "") .string) t false .string, ?_, rfl, fun env => ?_⟩
  · rw [Expr.appendedToEmpty, bind, bind, h]
    rfl
  · rw [evaluate, evaluate]
    cases evaluate t env with
    | error f => rfl
    | ok v =>
        show Except.ok (Value.string ("" ++ v.text)) = .ok (.string v.text)
        rw [String.empty_append]

/-- An expression with a type has one as the receiver of `ToString`, as the argument of
`Convert.ToString` and after the empty string, namely `String`.  On every input the three are the text
of what the expression is, and so the empty string for `null`, or they have its fault. -/
theorem bindInput_displays (hcatalog : catalog.lookup "Convert" = some Library.convert)
    (h : bindInput catalog e input = .ok t) (o₁ o₂ o₃ : Nat) :
    ∃ shown converted appended,
      bindInput catalog (e.displayed o₁ o₂) input = .ok shown ∧
      bindInput catalog (e.convertedToString o₁ o₂ o₃) input = .ok converted ∧
      bindInput catalog (e.appendedToEmpty o₁) input = .ok appended ∧
      shown.ty = .string ∧ converted.ty = .string ∧ appended.ty = .string ∧
      ∀ v, evaluate shown [v] = evaluate converted [v] ∧
        evaluate shown [v] = evaluate appended [v] ∧
        evaluate shown [v] = (evaluate t [v]).map (fun w => .string w.text) ∧
        (evaluate t [v] = .ok .null → evaluate shown [v] = .ok (.string "")) := by
  have hscopes : parameter? "convert" [⟨itKey, input⟩] = none := rfl
  obtain ⟨shown, hs, hshown⟩ := exists_bind_displayed h o₁ o₂
  obtain ⟨converted, hc, hconverted⟩ :=
    exists_bind_convertedToString hcatalog hscopes h o₁ o₂ o₃
  obtain ⟨appended, ha, happended⟩ := exists_bind_appendedToEmpty h o₁
  refine ⟨shown, converted, appended, hs, hc, ha, hshown.ty, hconverted.ty, happended.ty,
    fun v => ⟨?_, ?_, hshown.evaluate [v], fun hnull => ?_⟩⟩
  · rw [hshown.evaluate, hconverted.evaluate]
  · rw [hshown.evaluate, happended.evaluate]
  · rw [hshown.evaluate, hnull]
    rfl

/-- A day of the week that may be missing. -/
theorem bindInput_displays_dayOfWeek : ∃ shown converted appended,
    bindInput .standard ((Expr.it 1).displayed 4 12) (.nullable .dayOfWeek) = .ok shown ∧
    bindInput .standard ((Expr.it 1).convertedToString 4 12 0) (.nullable .dayOfWeek) =
      .ok converted ∧
    bindInput .standard ((Expr.it 1).appendedToEmpty 4) (.nullable .dayOfWeek) = .ok appended ∧
    evaluate shown [.dayOfWeek (.wrap .int32 3)] = .ok (.string "Wednesday") ∧
    evaluate converted [.dayOfWeek (.wrap .int32 3)] = .ok (.string "Wednesday") ∧
    evaluate appended [.dayOfWeek (.wrap .int32 3)] = .ok (.string "Wednesday") ∧
    evaluate converted [.null] = .ok (.string "") := by
  have hit : bindInput .standard (.it 1) (.nullable .dayOfWeek) =
      .ok (.parameter 0 (.nullable .dayOfWeek)) := rfl
  have hconvert : Catalog.standard.lookup "Convert" = some Library.convert := rfl
  obtain ⟨shown, converted, appended, hs, hc, ha, -, -, -, ho⟩ :=
    bindInput_displays hconvert hit 4 12 0
  obtain ⟨hconverted, happended, hshown, -⟩ := ho (.dayOfWeek (.wrap .int32 3))
  have hday : evaluate shown [.dayOfWeek (.wrap .int32 3)] = .ok (.string "Wednesday") := by
    rw [hshown, evaluate]
    rfl
  refine ⟨shown, converted, appended, hs, hc, ha, hday, ?_, ?_, ?_⟩
  · rw [← hconverted, hday]
  · rw [← happended, hday]
  · rw [← (ho .null).1]
    exact (ho .null).2.2.2 (by rw [evaluate]; rfl)

end Typing

end Elementwise
