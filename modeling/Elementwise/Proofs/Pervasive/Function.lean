import Elementwise.Eval.Term
import Elementwise.Proofs.Pervasive.Value
import Elementwise.Proofs.Soundness.Dates
import Elementwise.Proofs.Soundness.Mathematics
import Elementwise.Proofs.Soundness.Strings

/-!
Conversions, operators and library functions keep a pervasive property if those of them keep it that
can give a date, a span or a character which was not there before.
-/

namespace Elementwise

open Number (NumericKind WordKind Word)
open Time (Span)
open Value (Pervasive)

/-- Whether a function may give a date, a span or a character that is none of its arguments. -/
def Builtin.isProducer : Builtin → Bool
  | parseNumber _ | convert (.numeric _) => true
  | date | timeOfDay | addTime _ | addTicks | offset | localDateTime | utcDateTime => true
  | spanFrom _ | spanFromTicks => true
  | _ => false

namespace Eval

open Builtin (floatSign_hasType daysInMonth_hasType position_hasType)

/-- A pervasive property that conversions, and operators on dates and spans, keep. -/
structure Operable (P : Value → Prop) : Prop extends Pervasive P where
  cast (v : Value) (k : NumericKind) : Ensures P (cast v k)
  negate {s : Span} (hs : P (.timeSpan s)) : Ensures P (unary .negate (.timeSpan s))
  temporal {op : Operation} {left right : Value} {o : Outcome} (hl : P left) (hr : P right)
    (h : temporalArithmetic? op left right = some o) : Ensures P o

variable {P : Value → Prop} {v left right : Value} {args : List Value}

/-! ### Conversions -/

section Conversions

variable (hP : Operable P)
include hP

theorem coerce_ensures (c : Coercion) (hv : P v) : Ensures P (coerce c v) := by
  cases c with
  | numeric k => exact hP.cast v k
  | liftedNumeric k =>
      rw [coerce]
      split
      · exact .ok (hP.plain rfl)
      · exact hP.cast v k
  | wrap | box | nullLiteral | upcast => exact .ok hv

theorem nonNull_ensures {f : Value → Outcome} (lifted : Bool) (hf : Ensures P (f v)) :
    Ensures P (nonNull lifted v f) := by
  unfold nonNull
  split
  · split
    · exact .ok (hP.plain rfl)
    · exact .error
  · exact hf

theorem dayOfNumber_ensures (v : Value) : Ensures P (dayOfNumber v) := by
  refine (Ensures.trivial (Eval.cast v (.word .int32))).bind fun n _ => ?_
  split
  · exact .ok (hP.plain rfl)
  · exact .error

theorem numberOfDay_ensures (v : Value) : Ensures P (numberOfDay v) := by
  unfold numberOfDay
  split
  · exact .ok (hP.plain rfl)
  · exact .error

omit hP in
theorem unbox_ensures (t : Ty) (hv : P v) : Ensures P (unbox t v) := by
  unfold unbox
  split
  · exact .ok hv
  · split
    · exact .error
    · exact .error

theorem convertBy_ensures (c : Conversion) (hv : P v) : Ensures P (convertBy c v) := by
  cases c with
  | numeric k lifted => exact nonNull_ensures hP lifted (hP.cast v k)
  | toDayOfWeek lifted => exact nonNull_ensures hP lifted (dayOfNumber_ensures hP v)
  | ofDayOfWeek lifted => exact nonNull_ensures hP lifted (numberOfDay_ensures hP v)
  | unwrap => exact nonNull_ensures hP false (.ok hv)
  | unbox t => exact unbox_ensures t hv

/-! ### Operators -/

theorem unaryOn_ensures (op : UnaryOperator) (lifted : Bool) (hv : P v) :
    Ensures P (unaryOn op lifted v) := by
  unfold unaryOn
  split
  · exact .ok (hP.plain rfl)
  unfold unary
  split
  · exact .ok (hP.plain rfl)
  · exact .ok hv
  · exact .ok (hP.plain rfl)
  · exact .ok (hP.plain rfl)
  · exact .ok (hP.plain rfl)
  · exact .ok (hP.plain rfl)
  · exact .ok (hP.plain rfl)
  · exact hP.negate hv
  · exact .error

/-- Arithmetic on numbers, by an operation whose results on them are known as far as it is one of
arithmetic. -/
theorem ensures_of_operation {f : Operation → Outcome} {t : Ty} (ht : t.isPlain = true)
    (h : ∀ {op : Operation}, op.isArithmetic = true → HasType (f op) t)
    (herror : ∀ {op : Operation}, op.isArithmetic = false → f op = .error (notArithmetic op))
    (op : Operation) : Ensures P (f op) := by
  cases hop : op.isArithmetic with
  | true => exact (h hop).plain hP.toPervasive ht
  | false =>
      rw [herror hop]
      exact .error

theorem wordArithmetic_ensures (op : Operation) (k : WordKind) (a b : Word k) :
    Ensures P (wordArithmetic op k a b) :=
  ensures_of_operation hP (f := (wordArithmetic · k a b)) rfl (wordArithmetic_hasType · k a b)
    (fun {op} h => by cases op <;> first | rfl | cases h) op

theorem float32Arithmetic_ensures (op : Operation) (a b : Float32) :
    Ensures P (float32Arithmetic op a b) :=
  ensures_of_operation hP (f := (float32Arithmetic · a b)) rfl (float32Arithmetic_hasType · a b)
    (fun {op} h => by cases op <;> first | rfl | cases h) op

theorem floatArithmetic_ensures (op : Operation) (a b : Float) :
    Ensures P (floatArithmetic op a b) :=
  ensures_of_operation hP (f := (floatArithmetic · a b)) rfl (floatArithmetic_hasType · a b)
    (fun {op} h => by cases op <;> first | rfl | cases h) op

theorem decimalArithmetic_ensures (op : Operation) (a b : Decimal) :
    Ensures P (decimalArithmetic op a b) :=
  ensures_of_operation hP (f := (decimalArithmetic · a b)) rfl (decimalArithmetic_hasType · a b)
    (fun {op} h => by cases op <;> first | rfl | cases h) op

theorem arithmetic_ensures (op : Operation) (hl : P left) (hr : P right) :
    Ensures P (arithmetic op left right) := by
  unfold arithmetic
  split
  · split
    · split
      · exact wordArithmetic_ensures hP ..
      · exact .error
    · exact .error
  · exact float32Arithmetic_ensures hP ..
  · exact floatArithmetic_ensures hP ..
  · exact decimalArithmetic_ensures hP ..
  · cases h : temporalArithmetic? op left right with
    | none => exact .error
    | some o => exact hP.temporal hl hr h

theorem binaryOn_ensures (op : Operation) (lifted : Bool) (hl : P left) (hr : P right) :
    Ensures P (binaryOn op lifted left right) := by
  unfold binaryOn
  dsimp only
  split
  · exact .ok (hP.plain rfl)
  · exact .ok (hP.plain rfl)
  · exact .ok (hP.plain rfl)
  · exact .ok (hP.plain rfl)
  · exact .ok (hP.plain rfl)
  · exact .ok (hP.plain rfl)
  · exact .ok (hP.plain rfl)
  · split
    · exact .ok (hP.plain rfl)
    · exact arithmetic_ensures hP op hl hr

end Conversions

/-! ### Functions of numbers and strings -/

section Functions

variable (hP : Pervasive P)
include hP

theorem abs_ensures (v : Value) : Ensures P (abs v) := by
  unfold abs
  split
  · split
    · split
      · exact .ok (hP.plain rfl)
      · exact .error
    · exact .error
  · exact .ok (hP.plain rfl)
  · exact .ok (hP.plain rfl)
  · exact .ok (hP.plain rfl)
  · exact .error

theorem sign_ensures (v : Value) : Ensures P (sign v) := by
  unfold sign
  split
  · split
    · exact .ok (hP.plain rfl)
    · exact .error
  · exact (floatSign_hasType _).plain hP rfl
  · exact (floatSign_hasType _).plain hP rfl
  · exact .ok (hP.plain rfl)
  · exact .error

theorem round_ensures (v : Value) (digits : Int) : Ensures P (round v digits) := by
  unfold round
  split
  · exact .error
  · split
    · exact .ok (hP.plain rfl)
    · exact .ok (hP.plain rfl)
    · exact .error

theorem toIntegral_ensures (r : Number.Rounding) (onDecimal : Decimal → Option Decimal)
    (v : Value) : Ensures P (toIntegral r onDecimal v) := by
  unfold toIntegral
  split
  · exact .ok (hP.plain rfl)
  · split
    · exact .ok (hP.plain rfl)
    · exact .error
  · exact .error

omit hP in
theorem of_ite {c : Prop} [Decidable c] (hl : P left) (hr : P right) :
    P (if c then left else right) := by
  split
  · exact hl
  · exact hr

omit hP in
theorem maxOrMin_ensures (largest : Bool) (hl : P left) (hr : P right) :
    Ensures P (maxOrMin left right largest) := by
  unfold maxOrMin
  split
  · exact .ok hl
  · split
    · exact .ok hr
    · split
      · exact .ok (of_ite hl hr)
      · exact .error

theorem containsArgument_ensures (cs : List Char) (args : List Value) :
    Ensures P (containsArgument cs args) := by
  refine (Ensures.trivial (argument args 1)).bind fun v _ => ?_
  split
  · exact .ok (hP.plain rfl)
  · exact ensures_plain hP _ fun _ => rfl

/-! ### The library -/

omit hP in
theorem argument_ensures (ha : ∀ v ∈ args, P v) (i : Nat) : Ensures P (argument args i) := by
  unfold argument
  split
  · rename_i h
    exact .ok (ha _ (List.mem_of_getElem? h))
  · exact .error

/-- What a function gives is one of its arguments or plain, unless it is a producer. -/
theorem invokeNonNull_ensures {b : Builtin} (hb : b.isProducer = false) (given : Option Regex)
    (ha : ∀ v ∈ args, P v) : Ensures P (invokeNonNull b args given) := by
  have hany (i : Nat) := Ensures.trivial (argument args i)
  have hstring (i : Nat) := Ensures.trivial (stringArgument args i)
  cases b with
  -- what is asked for is one of the arguments
  | nullableValue =>
      refine (argument_ensures ha 0).bind fun v hv => ?_
      split
      · exact .error
      · exact .ok hv
  | getValueOrDefault =>
      refine (argument_ensures ha 0).bind fun v hv => ?_
      split
      · exact argument_ensures ha 1
      · exact .ok hv
  | max | min =>
      exact (argument_ensures ha 0).bind fun left hl => (argument_ensures ha 1).bind fun right hr =>
        maxOrMin_ensures _ hl hr
  | date | timeOfDay | addTime | addTicks | offset | localDateTime | utcDateTime | spanFrom
  | spanFromTicks | parseNumber => cases hb
  -- a number, a truth value or a string, whatever the arguments are
  | concat => exact .ok (hP.plain rfl)
  | toText | hasValue => exact ensures_plain hP _ fun _ => rfl
  | stringLength | toUpper | toLower | trim | utcTicks | math =>
      exact ensures_plain hP _ fun _ => rfl
  | dayOfWeek => exact ensures_plain hP _ fun _ => rfl
  | datePart part => exact ensures_plain hP _ fun _ => by cases part <;> rfl
  | spanPart part => exact ensures_plain hP _ fun _ => by cases part <;> rfl
  | spanTotal => exact ensures_plain hP _ fun _ => rfl
  | startsWith | endsWith =>
      exact (hstring 0).bind fun cs _ => ensures_plain hP _ fun _ => rfl
  | pow | atan2 =>
      exact (Ensures.trivial (doubleArgument args 0)).bind fun x _ =>
        ensures_plain hP _ fun _ => rfl
  | isNullOrEmpty | isNullOrWhiteSpace | charTest | arrayLength =>
      refine (hany 0).bind fun v _ => ?_
      split
      · exact .ok (hP.plain rfl)
      · first | exact .ok (hP.plain rfl) | exact .error
  | parseBoolean => exact (hstring 0).bind fun cs _ => (toBoolean_hasType _).plain hP rfl
  | parseGuid =>
      refine (hstring 0).bind fun cs _ => ?_
      split
      · exact .ok (hP.plain rfl)
      · exact .error
  | contains => exact (hstring 0).bind fun cs _ => containsArgument_ensures hP cs args
  | substring =>
      exact (Ensures.trivial (optionalInt32 args 2)).bind fun length _ => (hstring 0).bind fun cs _ =>
        (Ensures.trivial (int32Argument args 1)).bind fun start _ =>
          (Ensures.trivial (substring cs start.val _)).map fun _ _ => hP.plain rfl
  | indexOf =>
      refine (hstring 0).bind fun cs _ => (hany 1).bind fun v _ =>
        (Ensures.trivial (needle v "IndexOf")).bind fun sought _ => .ok (hP.plain ?_)
      exact Value.isPlain_of_conformsTo (t := .int32) rfl (position_hasType cs sought).conforms
  | replace =>
      exact (hstring 0).bind fun cs _ => (hany 1).bind fun old _ => (hany 2).bind fun new _ =>
        (Ensures.trivial (replace cs old new)).map fun _ _ => hP.plain rfl
  | daysInMonth =>
      exact (Ensures.trivial (int32Argument args 0)).bind fun year _ =>
        (Ensures.trivial (int32Argument args 1)).bind fun month _ =>
          (daysInMonth_hasType year.val month.val).plain hP rfl
  | isLeapYear =>
      exact (Ensures.trivial (int32Argument args 0)).bind fun year _ =>
        ensures_plain hP _ fun _ => rfl
  | toByteArray =>
      refine (hany 0).bind fun v _ => ?_
      split
      · refine .ok (hP.array_iff.2 fun v hv => ?_)
        obtain ⟨b, -, rfl⟩ := List.mem_map.1 hv
        exact hP.plain rfl
      · exact .error
  | abs => exact (hany 0).bind fun v _ => abs_ensures hP v
  | sign => exact (hany 0).bind fun v _ => sign_ensures hP v
  | floor | ceiling | truncate => exact (hany 0).bind fun v _ => toIntegral_ensures hP _ _ v
  | round =>
      exact (Ensures.trivial (optionalInt32 args 1)).bind fun digits _ => (hany 0).bind fun v _ =>
        round_ensures hP v _
  | convert target =>
      cases target with
      | boolean => exact (hany 0).bind fun v _ => (toBoolean_hasType v).plain hP rfl
      | numeric k => cases hb
      | string => exact ensures_plain hP _ fun _ => rfl
  | regexIsMatch =>
      exact (Ensures.trivial (pattern given args)).bind fun r _ => ensures_plain hP _ fun _ => rfl
  | regexReplace =>
      exact (Ensures.trivial (pattern given args)).bind fun r _ => (hstring 0).bind fun cs _ =>
        ensures_plain hP _ fun _ => rfl

omit hP in
theorem invoke_of_invokeNonNull {b : Builtin} {given : Option Regex}
    (h : Ensures P (invokeNonNull b args given)) : Ensures P (invoke b args given) := by
  unfold invoke
  split
  · refine (Ensures.trivial (argument args 0)).bind fun v _ => ?_
    split
    · exact .error
    · exact h
  · exact h

theorem invoke_ensures (b : Builtin) (given : Option Regex)
    (hproducer : b.isProducer = true → Ensures P (invoke b args given)) (ha : ∀ v ∈ args, P v) :
    Ensures P (invoke b args given) := by
  cases hb : b.isProducer with
  | true => exact hproducer hb
  | false => exact invoke_of_invokeNonNull (invokeNonNull_ensures hP hb given ha)

end Functions

end Eval

end Elementwise
