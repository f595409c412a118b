import Elementwise.Expr.Basic
import Elementwise.Library.Member
import Elementwise.Regex.Parser
import Elementwise.Typing.Conversion

/-!
Calls of members with overloads.  An overload applies when every argument converts implicitly to its
parameter, and the best of those that apply is the one whose parameters convert implicitly to those
of all others.
-/

namespace Elementwise.Typing

namespace Overload

/-- Whether the arguments convert to the parameters. -/
def applies (s : Signature) (args : List Term) : Bool :=
  (s.params.zip args).all fun (param, arg) => isImplicit arg.ty param

/-- Whether the parameters of one overload convert to those of the other. -/
def atLeastAsGood (a b : Signature) : Bool :=
  (a.params.zip b.params).all fun (p, q) => isImplicit p q

/-- The overloads that apply and are as good as all that do. -/
def best (applicable : List Signature) : List Signature :=
  applicable.filter fun a => applicable.all (atLeastAsGood a)

/-- Inserts a number into an ascending list that is not to repeat any. -/
def insertArity (n : Nat) : List Nat → List Nat
  | [] => [n]
  | m :: ms => if n < m then n :: m :: ms else if n = m then m :: ms else m :: insertArity n ms

/-- The numbers of parameters that overloads take, ascending. -/
def arities (overloads : List Signature) : List Nat :=
  overloads.foldr (fun s ns => insertArity s.params.length ns) []

/-- The arguments converted to the parameters. -/
def coerceAll (offset : Nat) : List Ty → List Term → Typed (List Term)
  | param :: params, arg :: args =>
    match arg.coerceTo? param with
    | some arg => (coerceAll offset params args).map (arg :: ·)
    | none => .error (.typeMismatch param arg.ty offset)
  | _, _ => .ok []

end Overload

open Overload

/-- Chooses the overload for the arguments, and converts them to its parameters. -/
def resolve (overloads : List Signature) (args : List Term) (name : Ident) :
    Typed (Signature × List Term) :=
  let candidates := overloads.filter (·.params.length == args.length)
  let applicable := candidates.filter (applies · args)
  if candidates.isEmpty then
    .error (.wrongArity name.name (arities overloads) args.length name.offset)
  else if applicable.isEmpty then
    .error (.noMatchingOverload name.name (args.map Term.ty) name.offset)
  else
    match best applicable with
    | [s] => (coerceAll name.offset s.params args).map (s, ·)
    | _ => .error (.ambiguousCall name.name (args.map Term.ty) name.offset)

/-- Refuses a constant pattern that is no regular expression. -/
def checkPattern (b : Builtin) (args : List Term) (offset : Nat) : Typed Unit :=
  match args with
  | _ :: .constant (.string pattern) _ :: _ =>
    if b.takesPattern && (Regex.compile? pattern).isNone then
      .error (.invalidPattern pattern offset)
    else .ok ()
  | _ => .ok ()

/-- A call of the overload for the arguments. -/
def overloadedCall (overloads : List Signature) (args : List Term) (name : Ident) :
    Typed (Signature × List Term) := do
  let (s, args) ← resolve overloads args name
  checkPattern s.builtin args name.offset
  .ok (s, args)

end Elementwise.Typing
