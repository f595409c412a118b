import Elementwise.Proofs.Soundness.Dates
import Elementwise.Proofs.Soundness.Mathematics
import Elementwise.Proofs.Soundness.Query
import Elementwise.Proofs.Soundness.Strings
import Elementwise.Typing.Binding

/-!
The typing of terms, and its soundness.  Library functions give what they promise, and a call of one
faults if its receiver is `null`.  `Typed` says of every part of a term what its types have to
do with those of its own parts; evaluation in an environment of values of the parameter types then
ends in a value of the type of the term or in a fault that an element can cause.
-/

namespace Elementwise

/-! ### Library functions -/

namespace Builtin

theorem isSound (b : Builtin) : b.IsSound := by
  cases b with
  | toText => exact toText_isSound
  | hasValue => exact hasValue_isSound
  | nullableValue => exact nullableValue_isSound
  | getValueOrDefault => exact getValueOrDefault_isSound
  | parseBoolean => exact parseBoolean_isSound
  | parseNumber k => exact parseNumber_isSound k
  | parseGuid => exact parseGuid_isSound
  | charTest test => exact charTest_isSound test
  | isNullOrEmpty => exact isNullOrEmpty_isSound
  | isNullOrWhiteSpace => exact isNullOrWhiteSpace_isSound
  | concat => exact concat_isSound
  | stringLength => exact stringLength_isSound
  | toUpper => exact toUpper_isSound
  | toLower => exact toLower_isSound
  | trim => exact trim_isSound
  | contains => exact contains_isSound
  | startsWith => exact startsWith_isSound
  | endsWith => exact endsWith_isSound
  | substring => exact substring_isSound
  | indexOf => exact indexOf_isSound
  | replace => exact replace_isSound
  | arrayLength => exact arrayLength_isSound
  | daysInMonth => exact daysInMonth_isSound
  | isLeapYear => exact isLeapYear_isSound
  | datePart part => exact datePart_isSound part
  | dayOfWeek => exact dayOfWeek_isSound
  | date => exact date_isSound
  | timeOfDay => exact timeOfDay_isSound
  | addTime unit => exact addTime_isSound unit
  | addTicks => exact addTicks_isSound
  | offset => exact offset_isSound
  | localDateTime => exact localDateTime_isSound
  | utcDateTime => exact utcDateTime_isSound
  | utcTicks => exact utcTicks_isSound
  | spanPart part => exact spanPart_isSound part
  | spanTotal unit => exact spanTotal_isSound unit
  | spanFrom unit => exact spanFrom_isSound unit
  | spanFromTicks => exact spanFromTicks_isSound
  | toByteArray => exact toByteArray_isSound
  | math f => exact math_isSound f
  | abs => exact abs_isSound
  | sign => exact sign_isSound
  | floor => exact floor_isSound
  | ceiling => exact ceiling_isSound
  | truncate => exact truncate_isSound
  | round => exact round_isSound
  | pow => exact pow_isSound
  | atan2 => exact atan2_isSound
  | max => exact max_isSound
  | min => exact min_isSound
  | convert target => exact convert_isSound target
  | regexIsMatch => exact regexIsMatch_isSound
  | regexReplace => exact regexReplace_isSound

/-- A function that has a receiver takes one at least. -/
theorem result?_nil {b : Builtin} (h : b.hasReceiver = true) : b.result? [] = none := by
  cases b with
  | datePart part => cases part <;> rfl
  | spanPart part => cases part <;> rfl
  | _ => first | rfl | cases h

end Builtin

namespace Eval

/-- A library function on arguments that it takes; a receiver that is `null` faults. -/
theorem invoke_hasType {b : Builtin} {args : List Value} {params : List Ty} {t : Ty}
    (given : Option Regex) (h : b.result? params = some t)
    (hargs : List.Forall₂ Value.HasType args params) : HasType (invoke b args given) t := by
  unfold invoke
  split
  · rename_i hr
    cases hargs with
    | nil =>
        rw [Builtin.result?_nil hr] at h
        cases h
    | @cons v _ _ _ hv hargs =>
        by_cases hn : v = .null
        · subst hn
          exact .error rfl
        · have := b.isSound _ _ t given h (.cons hv hargs) fun _ h => hn (Option.some.inj h)
          cases v with
          | null => exact absurd rfl hn
          | _ => exact this
  · rename_i hr
    exact b.isSound _ _ t given h hargs fun h => absurd h hr

end Eval

/-! ### Typed terms -/

open Typing (memberType resultType indexed?)

/-- A list of types without `null` in the first, which `conditional` takes care of. -/
def receiverTypes (conditional : Bool) : List Ty → List Ty
  | [] => []
  | t :: ts => memberType conditional t :: ts

theorem receiverTypes_false (ts : List Ty) : receiverTypes false ts = ts := by
  cases ts <;> rfl

namespace Term

/-- A term in which every part is typed, where the parameters have the types given, innermost
first. -/
inductive Typed : List Ty → Term → Prop where
  | constant {Γ : List Ty} {v : Value} {ty : Ty} (h : v.HasType ty) : Typed Γ (.constant v ty)
  | parameter {Γ : List Ty} {depth : Nat} {ty : Ty} (h : Γ[depth]? = some ty) :
    Typed Γ (.parameter depth ty)
  | coerce {Γ : List Ty} {c : Coercion} {operand : Term} {ty : Ty} (h : Typed Γ operand)
    (hc : c.Converts operand.ty ty) : Typed Γ (.coerce c operand ty)
  | convert {Γ : List Ty} {c : Conversion} {operand : Term} {ty : Ty} (h : Typed Γ operand)
    (hc : c.Converts operand.ty ty) : Typed Γ (.convert c operand ty)
  | unary {Γ : List Ty} {op : UnaryOperator} {operand : Term} {lifted : Bool} {t ty : Ty}
    (h : Typed Γ operand) (hop : op.Takes t) (ho : operand.ty = Typing.liftTo t lifted)
    (ht : ty = Typing.liftTo t lifted) : Typed Γ (.unary op operand lifted ty)
  | binary {Γ : List Ty} {op : Operation} {left right : Term} {lifted : Bool} {ty : Ty}
    (hl : Typed Γ left) (hr : Typed Γ right) (hop : op.Gives lifted left.ty right.ty ty) :
    Typed Γ (.binary op left right lifted ty)
  | coalesce {Γ : List Ty} {left right : Term} {ty : Ty} (hl : Typed Γ left) (hr : Typed Γ right)
    (hlt : left.ty = .null ∨ left.ty = ty ∨ left.ty = .nullable ty) (hrt : right.ty = ty) :
    Typed Γ (.coalesce left right ty)
  | choice {Γ : List Ty} {condition whenTrue whenFalse : Term} {ty : Ty}
    (hc : Typed Γ condition) (ht : Typed Γ whenTrue) (hf : Typed Γ whenFalse)
    (hcondition : condition.ty = .boolean) (htrue : whenTrue.ty = ty)
    (hfalse : whenFalse.ty = ty) : Typed Γ (.choice condition whenTrue whenFalse ty)
  | call {Γ : List Ty} {b : Builtin} {args : List Term} {conditional : Bool} {result ty : Ty}
    (hargs : ∀ a ∈ args, Typed Γ a)
    (hb : b.result? (receiverTypes conditional (args.map Term.ty)) = some result)
    (ht : ty = resultType conditional result) : Typed Γ (.call b args conditional ty)

  | field {Γ : List Ty} {receiver : Term} {index : Nat} {conditional : Bool}
    {fields : List (String × Ty)} {name : String} {t ty : Ty} (h : Typed Γ receiver)
    (hr : memberType conditional receiver.ty = .record fields)
    (hf : fields[index]? = some (name, t)) (ht : ty = resultType conditional t) :
    Typed Γ (.field receiver index conditional ty)
  | index {Γ : List Ty} {receiver index : Term} {conditional : Bool} {item ty : Ty}
    (h : Typed Γ receiver) (hi : Typed Γ index)
    (hr : indexed? (memberType conditional receiver.ty) = some item) (hit : index.ty = .int32)
    (ht : ty = resultType conditional item) : Typed Γ (.index receiver index conditional ty)
  | query {Γ : List Ty} {q : Query} {source : Term} {body : Option Term} {args : List Term}
    {conditional : Bool} {item result ty : Ty} (hs : Typed Γ source)
    (hb : ∀ b, body = some b → Typed (item :: Γ) b) (hargs : ∀ a ∈ args, Typed Γ a)
    (hst : (memberType conditional source.ty).element? = some item)
    (hq : q.Gives item (body.map Term.ty) (args.map Term.ty) result)
    (ht : ty = resultType conditional result) : Typed Γ (.query q source body args conditional ty)
  | array {Γ : List Ty} {elements : List Term} {t : Ty} (h : ∀ e ∈ elements, Typed Γ e)
    (ht : ∀ e ∈ elements, e.ty = t) : Typed Γ (.array elements (.array t))
  | record {Γ : List Ty} {fields : List (String × Ty)} {values : List Term}
    (h : ∀ v ∈ values, Typed Γ v) (ht : List.Forall₂ (fun f v => v.ty = f.2) fields values) :
    Typed Γ (.record fields values)

end Term

namespace Eval

variable {env : List Value} {conditional : Bool}

/-! ### Receivers -/

/-- A value that is not `null` has the type in which its members are looked up. -/
theorem hasType_memberType {v : Value} {t : Ty} (conditional : Bool) (hv : v.HasType t)
    (hn : v ≠ .null) : v.HasType (memberType conditional t) := by
  cases conditional with
  | false => exact hv
  | true => exact hv.underlying hn

theorem null_hasType_resultType (t : Ty) : Value.null.HasType (resultType true t) :=
  Value.null_hasType_asNullable t

theorem hasType_resultType {v : Value} {t : Ty} (conditional : Bool) (hv : v.HasType t) :
    v.HasType (resultType conditional t) := by
  cases conditional with
  | false => exact hv
  | true => exact hv.asNullable

theorem HasType.resultType {o : Outcome} {t : Ty} (ho : HasType o t) (conditional : Bool) :
    HasType o (resultType conditional t) :=
  ho.mono fun _ hv => hasType_resultType conditional hv

/-! ### Parts of values -/

/-- What stands at a position of one of two lists has a partner in the other. -/
theorem exists_partner {α β : Type} {R : α → β → Prop} {as : List α} {bs : List β} {i : Nat} {a : α}
    (h : List.Forall₂ R as bs) (hi : as[i]? = some a) : ∃ b, bs[i]? = some b ∧ R a b := by
  induction h generalizing i with
  | nil => cases hi
  | @cons a' b _ _ hab _ ih =>
      cases i with
      | zero =>
          obtain rfl := Option.some.inj hi
          exact ⟨b, rfl, hab⟩
      | succ i => exact ih hi

theorem fieldOf_hasType {fields : List (String × Ty)} {i : Nat} {name : String} {s t : Ty}
    {v : Value} (hv : v.HasType s) (hs : memberType conditional s = .record fields)
    (hi : fields[i]? = some (name, t)) :
    HasType (fieldOf v i conditional) (resultType conditional t) := by
  by_cases hn : v = .null
  · subst hn
    cases conditional with
    | true => exact .ok (null_hasType_resultType t)
    | false => exact .error rfl
  · have hr := hasType_memberType conditional hv hn
    rw [hs] at hr
    obtain ⟨values, rfl, hvalues⟩ := hr.fields.resolve_left hn
    obtain ⟨w, hw, hwt⟩ := exists_partner hvalues hi
    simp only [fieldOf, hw]
    exact .ok (hasType_resultType conditional hwt)

theorem elementAt_hasType {s item : Ty} {target position : Value} (ht : target.HasType s)
    (hn : target ≠ .null) (hs : indexed? s = some item) (hp : position.HasType .int32) :
    HasType (elementAt target position) item := by
  obtain ⟨w, rfl⟩ := Value.hasType_word.1 hp
  have items (he : s.element? = some item) :
      HasType (elementAt target (.number (.word .int32 w))) item := by
    obtain ⟨items, rfl, hi⟩ := (ht.items he).resolve_left hn
    simp only [elementAt]
    split
    · rename_i x hx
      split at hx
      · cases hx
      · exact .ok (hi x (List.mem_of_getElem? hx))
    · exact .error rfl
  cases s with
  | string =>
      cases hs
      obtain ⟨s, rfl⟩ := (Value.hasType_string.1 ht).resolve_left hn
      simp only [elementAt]
      split
      · exact .ok (Value.hasType_char.2 ⟨_, rfl⟩)
      · exact .error rfl
  | array t => exact items hs
  | sequence t => exact items hs
  | _ => cases hs

theorem itemsOf_yields {s item : Ty} (q : Query) {v : Value} (hv : v.HasType s)
    (hs : (memberType conditional s).element? = some item) :
    Yields (AllHaveType · item) (itemsOf q v) := by
  by_cases hn : v = .null
  · subst hn
    exact .error rfl
  · obtain ⟨items, rfl, hi⟩ := ((hasType_memberType conditional hv hn).items hs).resolve_left hn
    exact .ok hi

/-! ### Lists of terms -/

theorem evaluateAll_yields {ts : List Term} (h : ∀ t ∈ ts, HasType (evaluate t env) t.ty) :
    Yields (fun vs => List.Forall₂ Value.HasType vs (ts.map Term.ty)) (evaluateAll ts env) := by
  induction ts with
  | nil => exact .ok .nil
  | cons t ts ih =>
      obtain ⟨ht, hts⟩ := List.forall_mem_cons.1 h
      exact ht.bind fun v hv => (ih hts).bind fun vs hvs => .ok (.cons hv hvs)

/-- Arguments are missing only where a `null` receiver was asked for to make a call `null`. -/
theorem evaluateArguments_yields {ts : List Term} (h : ∀ t ∈ ts, HasType (evaluate t env) t.ty) :
    Yields (fun o => o = none ∧ conditional = true ∨ ∃ vs, o = some vs ∧
        List.Forall₂ Value.HasType vs (receiverTypes conditional (ts.map Term.ty)))
      (evaluateArguments conditional ts env) := by
  cases ts with
  | nil => exact .ok (Or.inr ⟨[], rfl, .nil⟩)
  | cons t ts =>
      obtain ⟨ht, hts⟩ := List.forall_mem_cons.1 h
      rw [evaluateArguments]
      refine ht.bind fun v hv => ?_
      split
      · exact .ok (Or.inl ⟨rfl, rfl⟩)
      · rename_i hnull
        have hv' : v.HasType (memberType conditional t.ty) := by
          cases conditional with
          | false => exact hv
          | true => exact hasType_memberType true hv (hnull rfl)
        exact (evaluateAll_yields hts).bind fun vs hvs => .ok (Or.inr ⟨_, rfl, .cons hv' hvs⟩)

/-! ### Terms -/

theorem parameter_hasType {Γ : List Ty} {depth : Nat} {ty : Ty}
    (henv : List.Forall₂ Value.HasType env Γ) (h : Γ[depth]? = some ty) :
    HasType (evaluate (.parameter depth ty) env) ty := by
  obtain ⟨v, hv, hvt⟩ := exists_partner henv.flip h
  rw [evaluate, hv]
  exact .ok hvt

/-- A logical operation has the value of its right operand where its left one does not decide. -/
theorem logical_hasType {op : Operation} {left right : Term} {lifted : Bool} {ty : Ty}
    (hop : op.Gives lifted left.ty right.ty ty) (hlogical : op = .and ∨ op = .or)
    (hl : HasType (evaluate left env) left.ty) (hr : HasType (evaluate right env) right.ty) :
    HasType (evaluate (.binary op left right lifted ty) env) ty := by
  rcases hlogical with rfl | rfl
  · obtain ⟨hlt, hrt, rfl⟩ := hop
    rw [hlt] at hl
    rw [hrt] at hr
    rw [evaluate]
    refine hl.bind fun v hv => ?_
    obtain ⟨b, rfl⟩ := Value.hasType_boolean.1 hv
    cases b with
    | true => exact hr
    | false => exact .ok hv
  · obtain ⟨hlt, hrt, rfl⟩ := hop
    rw [hlt] at hl
    rw [hrt] at hr
    rw [evaluate]
    refine hl.bind fun v hv => ?_
    obtain ⟨b, rfl⟩ := Value.hasType_boolean.1 hv
    cases b with
    | true => exact .ok hv
    | false => exact hr

theorem coalesce_hasType {left right : Term} {ty : Ty}
    (hlt : left.ty = .null ∨ left.ty = ty ∨ left.ty = .nullable ty) (hrt : right.ty = ty)
    (hl : HasType (evaluate left env) left.ty) (hr : HasType (evaluate right env) right.ty) :
    HasType (evaluate (.coalesce left right ty) env) ty := by
  rw [evaluate]
  refine hl.bind fun v hv => ?_
  by_cases hn : v = .null
  · subst hn
    exact hrt ▸ hr
  · have hv' : v.HasType ty := by
      rcases hlt with h | h | h
      · rw [h] at hv
        exact absurd (Value.hasType_null.1 hv) hn
      · exact h ▸ hv
      · rw [h] at hv
        exact (Value.hasType_nullable.1 hv).resolve_left hn
    cases v with
    | null => exact absurd rfl hn
    | _ => exact .ok hv'

/-- A typed term has a value of its type, or ends in a fault that an element can cause. -/
theorem evaluate_hasType {Γ : List Ty} {t : Term} (h : t.Typed Γ)
    (henv : List.Forall₂ Value.HasType env Γ) : HasType (evaluate t env) t.ty := by
  induction h generalizing env with
  | constant hv => exact .ok hv
  | parameter h => exact parameter_hasType henv h
  | coerce _ hc ih => exact (ih henv).bind fun v hv => coerce_hasType hc hv
  | convert _ hc ih => exact (ih henv).bind fun v hv => convertBy_hasType hc hv
  | @unary _ op operand lifted t ty _ hop ho ht ih =>
      obtain rfl := ht
      have hi := ih henv
      rw [ho] at hi
      exact hi.bind fun v hv => unaryOn_hasType hop hv
  | @binary _ op left right lifted ty _ _ hop ihl ihr =>
      by_cases hlogical : op = .and ∨ op = .or
      · exact logical_hasType hop hlogical (ihl henv) (ihr henv)
      · rw [not_or] at hlogical
        rw [evaluate]
        refine (ihl henv).bind fun v hv => ?_
        split
        · exact absurd rfl hlogical.1
        · exact absurd rfl hlogical.1
        · exact absurd rfl hlogical.2
        · exact absurd rfl hlogical.2
        · exact (ihr henv).bind fun w hw => binaryOn_hasType hop hlogical.1 hlogical.2 hv hw
  | coalesce _ _ hlt hrt ihl ihr => exact coalesce_hasType hlt hrt (ihl henv) (ihr henv)
  | @choice _ condition whenTrue whenFalse ty _ _ _ hcondition htrue hfalse ihc iht ihf =>
      have hc := ihc henv
      rw [hcondition] at hc
      rw [evaluate]
      refine hc.bind fun v hv => ?_
      obtain ⟨b, rfl⟩ := Value.hasType_boolean.1 hv
      cases b with
      | true => exact htrue ▸ iht henv
      | false => exact hfalse ▸ ihf henv
  | @call _ b args conditional result ty _ hb ht ih =>
      obtain rfl := ht
      rw [evaluate]
      refine (evaluateArguments_yields fun a ha => ih a ha henv).bind fun o ho => ?_
      rcases ho with ⟨rfl, rfl⟩ | ⟨vs, rfl, hvs⟩
      · exact .ok (null_hasType_resultType result)
      · exact (invoke_hasType none hb hvs).resultType conditional
  | field _ hr hf ht ih =>
      obtain rfl := ht
      exact (ih henv).bind fun v hv => fieldOf_hasType hv hr hf
  | @index _ receiver index conditional item ty _ _ hr hit ht ihr ihi =>
      obtain rfl := ht
      have hi := ihi henv
      rw [hit] at hi
      rw [evaluate]
      refine (ihr henv).bind fun v hv => ?_
      by_cases hn : v = .null
      · subst hn
        cases conditional with
        | true => exact .ok (null_hasType_resultType item)
        | false => exact .error rfl
      · have := hi.bind fun p hp =>
          (elementAt_hasType (hasType_memberType conditional hv hn) hn hr hp).resultType conditional
        cases v with
        | null => exact absurd rfl hn
        | _ => exact this
  | @query _ q source body args conditional item result ty _ _ _ hst hq ht ihs ihb ihargs =>
      obtain rfl := ht
      rw [evaluate]
      refine (ihs henv).bind fun v hv => ?_
      split
      · exact .ok (null_hasType_resultType result)
      · refine (itemsOf_yields q hv hst).bind fun items hi => ?_
        refine (evaluateAll_yields fun a ha => ihargs a ha henv).bind fun vs hvs => ?_
        cases body with
        | none => exact (query_hasType hq hi .none hvs).resultType conditional
        | some body =>
            have hb : FunctionHasType (some fun v => evaluate body (v :: env)) item (some body.ty) :=
              .some fun v hv => ihb body rfl (.cons hv henv)
            exact (query_hasType hq hi hb hvs).resultType conditional
  | @array _ elements t _ ht ih =>
      rw [evaluate]
      refine (evaluateAll_yields fun a ha => ih a ha henv).bind fun vs hvs => .ok ?_
      refine Value.array_hasType_array.2 fun v hv => ?_
      obtain ⟨i, hi⟩ := List.mem_iff_getElem?.1 hv
      obtain ⟨s, hs, hvt⟩ := exists_partner hvs hi
      obtain ⟨e, he, rfl⟩ := List.mem_map.1 (List.mem_of_getElem? hs)
      exact ht e he ▸ hvt
  | @record _ fields values _ ht ih =>
      rw [evaluate]
      refine (evaluateAll_yields fun a ha => ih a ha henv).bind fun vs hvs => .ok ?_
      have hty : values.map Term.ty = fields.map Prod.snd := by
        rw [← List.forall₂_eq_eq_eq, List.forall₂_map_left_iff, List.forall₂_map_right_iff]
        exact ht.flip
      rw [hty, List.forall₂_map_right_iff] at hvs
      exact Value.record_hasType hvs.flip

end Eval

end Elementwise
