import Elementwise.Term
import Elementwise.Typing.Error

/-!
Conversions between types.  Implicit ones are made wherever a value of another type is expected:
numbers widen, values become nullable or objects, `null` takes any type that has it, and arrays and
sequences of references convert as their elements do.  Explicit ones are asked for by a conversion
call, and may fault.
-/

namespace Elementwise

open Number (NumericKind)

/-! ### Implicit conversions -/

/-- The steps that convert one type to another, first to last, each with the type it leads to. -/
def implicitSteps? (source : Ty) (target : Ty) : Option (List (Coercion × Ty)) :=
  let widen (s t : Ty) (step : NumericKind → Coercion) :=
    match s.numericKind?, t.numericKind? with
    | some j, some k => if j.widensTo k then some [(step k, target)] else none
    | _, _ => none
  if source = target then some []
  else if source = .null then
    if target.acceptsNull then some [(.nullLiteral, target)] else none
  else if target = .object then some [(.box, .object)]
  else
    match target with
    | .nullable t =>
      match source with
      | .nullable s => widen s t .liftedNumeric
      | source =>
        if source.isValueType then
          (implicitSteps? source t).map (· ++ [(.wrap, .nullable t)])
        else none
    | .array t =>
      match source with
      | .array s =>
        if s = t || (s.isReference && t.isReference && (implicitSteps? s t).isSome) then
          some [(.upcast, .array t)]
        else none
      | _ => none
    | .sequence t =>
      match source with
      | .array s | .sequence s =>
        if s = t || (s.isReference && t.isReference && (implicitSteps? s t).isSome) then
          some [(.upcast, .sequence t)]
        else none
      | _ => none
    | target => widen source target .numeric

/-- Whether a value of one type may be used where the other is expected. -/
def isImplicit (source target : Ty) : Bool :=
  (implicitSteps? source target).isSome

namespace Term

/-- The expression converted to a type, if there is an implicit conversion to it. -/
def coerceTo? (t : Term) (target : Ty) : Option Term :=
  (implicitSteps? t.ty target).map fun steps => steps.foldl (fun t (c, ty) => coerce c t ty) t

/-! ### Explicit conversions -/

/-- Converts between numbers and days of the week, possibly nullable both. -/
def convertScalar? (operand : Term) (source target : Ty) (lifted : Bool) : Option Term :=
  let lift (t : Ty) := if lifted then t.asNullable else t
  match source, target with
  | .dayOfWeek, .numeric k =>
    let number := operand.convert (.ofDayOfWeek lifted) (lift .int32)
    some <|
      if k = .word .int32 then number
      else number.convert (.numeric k lifted) (lift (.numeric k))
  | .numeric _, .dayOfWeek => some (operand.convert (.toDayOfWeek lifted) (lift .dayOfWeek))
  | .numeric _, .numeric k => some (operand.convert (.numeric k lifted) (lift (.numeric k)))
  | _, _ => none

/-- The expression converted as a conversion call asks for: implicitly if possible; else an object
is taken for a value of the type, a nullable value is unwrapped, and numbers and days of the week
convert to each other. -/
def convertTo (t : Term) (target : Ty) (offset : Nat) : Typed Term :=
  match t.coerceTo? target with
  | some t => .ok t
  | none =>
    if t.ty = .object then .ok (t.convert (.unbox target) target)
    else
      let source := t.ty.underlying
      let lifted := t.ty.isNullable && target.isNullable
      let operand :=
        if t.ty.isNullable && !target.isNullable then t.convert .unwrap source else t
      if source = target.underlying then .ok operand
      else
        match operand.convertScalar? source target.underlying lifted with
        | some converted =>
          .ok <| if target.isNullable && !lifted then converted.coerce .wrap target else converted
        | none => .error (.invalidConversion t.ty target offset)

end Term

end Elementwise
