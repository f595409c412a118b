import Elementwise.Eval.Library
import Elementwise.Library.Instance
import Elementwise.Library.Standard
import Elementwise.Proofs.Soundness.Operator
import Elementwise.Proofs.Soundness.Value

/-!
What library functions promise.  Members promise their functions parameters and a result; here the
functions state for themselves what they take, and every member of the library and of values keeps to
it.  On arguments of the types it takes, a function ends in a value of its result type or in a fault
that an element can cause.  Functions with the same kind of parameters are handled by one lemma each;
the functions of values of any type and of nullable values follow.
-/

namespace Elementwise

open Eval
open Number (NumericKind)
open Library (numberKinds)

namespace Builtin

/-! ### What functions take -/

/-- The result if the parameters are among those expected. -/
def takes (expected : List (List Ty)) (result : Ty) (params : List Ty) : Option Ty :=
  if params ∈ expected then some result else none

/-- The type of the only parameter, if it is among those expected. -/
def keeps (expected : List Ty) (params : List Ty) : Option Ty :=
  match params with
  | [t] => if t ∈ expected then some t else none
  | _ => none

/-- The result for any one parameter. -/
def takesAny (result : Ty) (params : List Ty) : Option Ty :=
  match params with
  | [_] => some result
  | _ => none

/-- The result for a date with or without an offset, followed by the parameters given. -/
def onDate (others : List Ty) (result : Ty) : List Ty → Option Ty :=
  takes [.dateTime :: others, .dateTimeOffset :: others] result

/-- A date moved by something of the type given keeps its type. -/
def movesDate (amount : Ty) (params : List Ty) : Option Ty :=
  match params with
  | [.dateTime, t] => if t = amount then some .dateTime else none
  | [.dateTimeOffset, t] => if t = amount then some .dateTimeOffset else none
  | _ => none

/-- The type of a function of a nullable value and of the others given, which gives the value. -/
def unwraps (others : Ty → List Ty) (params : List Ty) : Option Ty :=
  match params with
  | .nullable t :: ts => if ts = others t then some t else none
  | _ => none

/-- Two numbers of one kind give a number of the kind. -/
def ofTwoNumbers (params : List Ty) : Option Ty :=
  match params with
  | [.numeric j, .numeric k] => if j = k ∧ k ≠ .char then some (.numeric k) else none
  | _ => none

def signedTypes : List Ty :=
  (numberKinds.filter (·.signed)).map .numeric

/-- The numbers that have a fraction in a form that rounding works on. -/
def realTypes : List Ty :=
  [.double, .decimal]

/-- The type of the result of a function on parameters of the types given, the receiver before the
others, if it takes them. -/
def result? (b : Builtin) (params : List Ty) : Option Ty :=
  match b with
  | toText | convert .string => takesAny .string params
  | convert .boolean => takesAny .boolean params
  | convert (.numeric k) => takesAny (.numeric k) params
  | hasValue => (unwraps (fun _ => []) params).map fun _ => .boolean
  | nullableValue => unwraps (fun _ => []) params
  | getValueOrDefault => unwraps (fun t => [t]) params
  | parseBoolean | isNullOrEmpty | isNullOrWhiteSpace => takes [[.string]] .boolean params
  | parseNumber k => takes [[.string]] (.numeric k) params
  | parseGuid => takes [[.string]] .guid params
  | charTest _ => takes [[.char]] .boolean params
  | concat => some .string
  | stringLength => takes [[.string]] .int32 params
  | toUpper | toLower | trim => takes [[.string]] .string params
  | contains => takes [[.string, .string], [.string, .char]] .boolean params
  | startsWith | endsWith => takes [[.string, .string]] .boolean params
  | substring => takes [[.string, .int32], [.string, .int32, .int32]] .string params
  | indexOf => takes [[.string, .string], [.string, .char]] .int32 params
  | replace => takes [[.string, .string, .string], [.string, .char, .char]] .string params
  | arrayLength =>
    match params with
    | [.array _] => some .int32
    | _ => none
  | daysInMonth => takes [[.int32, .int32]] .int32 params
  | isLeapYear => takes [[.int32]] .boolean params
  | datePart .ticks => onDate [] .int64 params
  | datePart _ => onDate [] .int32 params
  | dayOfWeek => onDate [] .dayOfWeek params
  | date => onDate [] .dateTime params
  | timeOfDay => onDate [] .timeSpan params
  | addTime _ => movesDate .double params
  | addTicks => movesDate .int64 params
  | offset => takes [[.dateTimeOffset]] .timeSpan params
  | localDateTime | utcDateTime => takes [[.dateTimeOffset]] .dateTime params
  | utcTicks => takes [[.dateTimeOffset]] .int64 params
  | spanPart .ticks => takes [[.timeSpan]] .int64 params
  | spanPart _ => takes [[.timeSpan]] .int32 params
  | spanTotal _ => takes [[.timeSpan]] .double params
  | spanFrom _ => takes [[.double]] .timeSpan params
  | spanFromTicks => takes [[.int64]] .timeSpan params
  | toByteArray => takes [[.guid]] (.array (.word .byte)) params
  | math _ => takes [[.double]] .double params
  | abs => keeps signedTypes params
  | sign => (keeps signedTypes params).map fun _ => .int32
  | floor | ceiling | truncate => keeps realTypes params
  | round =>
    match params with
    | [t, .int32] => keeps realTypes [t]
    | params => keeps realTypes params
  | pow | atan2 => takes [[.double, .double]] .double params
  | max | min => ofTwoNumbers params
  | regexIsMatch => takes [[.string, .string]] .boolean params
  | regexReplace => takes [[.string, .string, .string]] .string params

end Builtin

/-! ### What members promise -/

namespace Signature

/-- The types of the arguments of a call on a receiver; a default that is left out is filled in. -/
def withReceiver (s : Signature) (receiver : Ty) : List Ty :=
  if s.builtin = .getValueOrDefault ∧ s.params.isEmpty then [receiver, s.result]
  else receiver :: s.params

end Signature

namespace Member

/-- Whether a member that is reached through the name of its symbol keeps its promises. -/
def fits : Member → Bool
  | constant _ ty v => v.conformsTo ty && v.isWellFormed
  | property .. => true
  | method _ overloads => overloads.all fun s => s.builtin.result? s.params = some s.result

/-- Whether a member that is reached through a value of the type keeps its promises. -/
def fitsOn (receiver : Ty) : Member → Bool
  | constant _ ty v => v.conformsTo ty && v.isWellFormed
  | property _ ty b => b.result? [receiver] = some ty
  | method _ overloads =>
    overloads.all fun s => s.builtin.result? (s.withReceiver receiver) = some s.result

end Member

/-- No symbol of the library promises what its functions do not give. -/
theorem Library.standard_fits : (Library.standard.all fun s => s.members.all (·.fits)) = true := by
  decide +kernel

/-- No member of a value promises what its function does not give. -/
theorem Ty.members_fit (t : Ty) : (t.members.all (·.fitsOn t)) = true := by
  cases t with
  | nullable t =>
      simp [members, ownMembers, Member.fitsOn, Member.single, Signature.withReceiver,
        Builtin.result?, Builtin.takesAny, Builtin.unwraps]
  | array t => rfl
  | sequence t => rfl
  | record fields => rfl
  | numeric k => rfl
  | _ => decide +kernel

namespace Builtin

/-! ### What functions promise -/

/-- On arguments that it takes, with a receiver other than `null`, the function gives a value of its
result type. -/
def IsSound (b : Builtin) : Prop :=
  ∀ (args : List Value) (params : List Ty) (t : Ty) (given : Option Regex),
    b.result? params = some t → List.Forall₂ Value.HasType args params →
    (b.hasReceiver = true → args[0]? ≠ some .null) → HasType (invokeNonNull b args given) t

/-! ### Numbers of arguments -/

variable {b : Builtin} {r s s₁ s₂ s₃ : Ty}

theorem arguments_one {args : List Value} (h : List.Forall₂ Value.HasType args [s]) :
    ∃ v, args = [v] ∧ v.HasType s := by
  cases h with
  | cons hv h =>
      cases h
      exact ⟨_, rfl, hv⟩

theorem arguments_two {args : List Value} (h : List.Forall₂ Value.HasType args [s₁, s₂]) :
    ∃ v w, args = [v, w] ∧ v.HasType s₁ ∧ w.HasType s₂ := by
  cases h with
  | cons hv h =>
      obtain ⟨w, rfl, hw⟩ := arguments_one h
      exact ⟨_, w, rfl, hv, hw⟩

theorem arguments_three {args : List Value} (h : List.Forall₂ Value.HasType args [s₁, s₂, s₃]) :
    ∃ v w x, args = [v, w, x] ∧ v.HasType s₁ ∧ w.HasType s₂ ∧ x.HasType s₃ := by
  cases h with
  | cons hv h =>
      obtain ⟨w, x, rfl, hw, hx⟩ := arguments_two h
      exact ⟨_, w, x, rfl, hv, hw, hx⟩

theorem eq_of_takes {expected : List (List Ty)} {params : List Ty} {t : Ty}
    (h : takes expected r params = some t) : params ∈ expected ∧ t = r := by
  rw [takes] at h
  split at h
  · cases h
    exact ⟨by assumption, rfl⟩
  · cases h

theorem isSound_of_takesAny (hb : ∀ params, b.result? params = takesAny r params)
    (h : ∀ v given, HasType (invokeNonNull b [v] given) r) : b.IsSound := by
  intro args params t given ht hargs _
  rw [hb] at ht
  cases hargs with
  | nil => cases ht
  | cons hv hargs =>
      cases hargs with
      | nil =>
          cases ht
          exact h _ given
      | cons _ _ => cases ht

theorem isSound_of_takes_one (hb : ∀ params, b.result? params = takes [[s]] r params)
    (h : ∀ v given, v.HasType s → HasType (invokeNonNull b [v] given) r) : b.IsSound := by
  intro args params t given ht hargs _
  rw [hb] at ht
  obtain ⟨hp, rfl⟩ := eq_of_takes ht
  obtain rfl := List.mem_singleton.1 hp
  obtain ⟨v, rfl, hv⟩ := arguments_one hargs
  exact h v given hv

theorem isSound_of_takes_two (hb : ∀ params, b.result? params = takes [[s₁, s₂]] r params)
    (h : ∀ v w given, v.HasType s₁ → w.HasType s₂ → HasType (invokeNonNull b [v, w] given) r) :
    b.IsSound := by
  intro args params t given ht hargs _
  rw [hb] at ht
  obtain ⟨hp, rfl⟩ := eq_of_takes ht
  obtain rfl := List.mem_singleton.1 hp
  obtain ⟨v, w, rfl, hv, hw⟩ := arguments_two hargs
  exact h v w given hv hw

/-- A function with two overloads, of which one may take an argument more. -/
theorem isSound_of_takes_either {ps qs : List Ty}
    (hb : ∀ params, b.result? params = takes [ps, qs] r params)
    (hps : ∀ args given, List.Forall₂ Value.HasType args ps → HasType (invokeNonNull b args given) r)
    (hqs : ∀ args given, List.Forall₂ Value.HasType args qs → HasType (invokeNonNull b args given) r) :
    b.IsSound := by
  intro args params t given ht hargs _
  rw [hb] at ht
  obtain ⟨hp, rfl⟩ := eq_of_takes ht
  rcases List.mem_cons.1 hp with rfl | hp
  · exact hps args given hargs
  · obtain rfl := List.mem_singleton.1 hp
    exact hqs args given hargs

theorem isSound_of_onDate (hb : ∀ params, b.result? params = onDate [] r params)
    (h : ∀ v given, v.HasType .dateTime ∨ v.HasType .dateTimeOffset →
      HasType (invokeNonNull b [v] given) r) : b.IsSound := by
  refine isSound_of_takes_either hb ?_ ?_
  · intro args given hargs
    obtain ⟨v, rfl, hv⟩ := arguments_one hargs
    exact h v given (Or.inl hv)
  · intro args given hargs
    obtain ⟨v, rfl, hv⟩ := arguments_one hargs
    exact h v given (Or.inr hv)

/-! ### Common results -/

theorem hasType_count (n : Nat) : (Value.count n).HasType .int32 :=
  Value.hasType_word.2 ⟨_, rfl⟩

theorem hasType_text (s : String) : (Value.string s).HasType .string :=
  Value.hasType_string.2 (Or.inr ⟨s, rfl⟩)

theorem hasType_truth (b : Bool) : (Value.boolean b).HasType .boolean :=
  Value.hasType_boolean.2 ⟨b, rfl⟩

/-! ### Any value -/

theorem toText_isSound : IsSound .toText :=
  isSound_of_takesAny (fun _ => rfl) fun v _ => .ok (hasType_text v.text)

theorem convert_isSound (target : ConvertTarget) : IsSound (.convert target) := by
  cases target with
  | boolean => exact isSound_of_takesAny (fun _ => rfl) fun v _ => toBoolean_hasType v
  | numeric k => exact isSound_of_takesAny (fun _ => rfl) fun v _ => convert_hasType v k
  | string => exact isSound_of_takesAny (fun _ => rfl) fun v _ => .ok (hasType_text v.text)

theorem concat_isSound : IsSound .concat := by
  intro args params t given ht _ _
  cases ht
  exact .ok (hasType_text _)

/-! ### Nullable values -/

/-- The parameters of a function of a nullable value. -/
theorem eq_of_unwraps {others : Ty → List Ty} {params : List Ty} {t : Ty}
    (h : unwraps others params = some t) : params = .nullable t :: others t := by
  unfold unwraps at h
  split at h
  · split at h
    · cases h
      subst_vars
      rfl
    · cases h
  · cases h

theorem hasValue_isSound : IsSound .hasValue := by
  intro args params t given ht hargs _
  obtain ⟨s, hs, rfl⟩ := Option.map_eq_some_iff.1 ht
  rw [eq_of_unwraps hs] at hargs
  cases hargs with
  | cons _ _ => exact .ok (hasType_truth _)

theorem nullableValue_isSound : IsSound .nullableValue := by
  intro args params t given ht hargs _
  rw [eq_of_unwraps ht] at hargs
  cases hargs with
  | @cons v _ _ _ hv _ =>
      rcases Value.hasType_nullable.1 hv with rfl | hv
      · exact .error rfl
      · cases v with
        | null => exact .error rfl
        | _ => exact .ok hv

theorem getValueOrDefault_isSound : IsSound .getValueOrDefault := by
  intro args params t given ht hargs _
  rw [eq_of_unwraps ht] at hargs
  cases hargs with
  | @cons v _ _ _ hv hargs =>
      cases hargs with
      | cons hw _ =>
          rcases Value.hasType_nullable.1 hv with rfl | hv
          · exact .ok hw
          · cases v with
            | null => exact .ok hw
            | _ => exact .ok hv

/-! ### Reading -/

theorem parseBoolean_isSound : IsSound .parseBoolean :=
  isSound_of_takes_one (fun _ => rfl) fun _ _ hv =>
    (stringArgument_yields rfl hv).bind fun cs _ => toBoolean_hasType (ofChars cs)

theorem parseNumber_isSound (k : NumericKind) : IsSound (.parseNumber k) :=
  isSound_of_takes_one (fun _ => rfl) fun _ _ hv =>
    (stringArgument_yields rfl hv).bind fun cs _ => parse_hasType (String.ofList cs) k

theorem parseGuid_isSound : IsSound .parseGuid := by
  refine isSound_of_takes_one (fun _ => rfl) fun _ _ hv =>
    (stringArgument_yields rfl hv).bind fun cs _ => ?_
  cases Guid.parse? (Text.trim cs) with
  | some g => exact .ok (Value.hasType_guid.2 ⟨g, rfl⟩)
  | none => exact .error rfl

end Builtin

end Elementwise
