import Elementwise.Regex.Basic

/-!
The program of a regular expression: a graph of instructions, each of which names those that may
follow it, the preferred one first.  A program is built from its end backwards, so that an
expression is put before what has to match after it.
-/

namespace Elementwise.Regex

inductive Instruction where
  | accept
  | one (c : CharClass) (ignoreCase : Bool) (next : Nat)
  | assertion (a : Assertion) (next : Nat)
  | opening (group next : Nat)
  | closing (group next : Nat)
  | branch (first second : Nat)

structure Program where
  instructions : Array Instruction
  start : Nat

namespace Program

/-- The program that accepts at once. -/
def done : Program :=
  ⟨#[.accept], 0⟩

/-- The program that begins with a new instruction. -/
def push (p : Program) (i : Instruction) : Program :=
  ⟨p.instructions.push i, p.instructions.size⟩

def startAt (p : Program) (start : Nat) : Program :=
  { p with start := start }

/-- The choice between an iteration and what follows the repetition. -/
def iteration (greedy : Bool) (body exit : Nat) : Instruction :=
  if greedy then .branch body exit else .branch exit body

/-- Goes through a part once or not at all. -/
def optional (part : Program → Program) (greedy : Bool) (p : Program) : Program :=
  let q := part p
  q.push (iteration greedy q.start p.start)

/-- Closes a loop: a choice is reserved before the program, and the part leads back to it.  The
result begins with the part and is returned with the place of the choice. -/
def loop (part : Program → Program) (greedy : Bool) (p : Program) : Program × Nat :=
  let choice := p.instructions.size
  let q := part (p.push .accept)
  let i := iteration greedy q.start p.start
  ({ q with instructions := q.instructions.setIfInBounds choice i }, choice)

/-- Goes through a part once or more. -/
def oneOrMore (part : Program → Program) (greedy : Bool) (p : Program) : Program :=
  (p.loop part greedy).1

/-- Goes through a part any number of times.  Where the part can be empty, its first iteration
stands apart from the loop, so that an empty iteration counts once. -/
def zeroOrMore (part : Program → Program) (canBeEmpty greedy : Bool) (p : Program) : Program :=
  let (q, choice) := p.loop part greedy
  if canBeEmpty then q.push (iteration greedy q.start p.start) else q.startAt choice

end Program

namespace Expr

def canBeEmpty : Expr → Bool
  | .empty => true
  | .one _ _ => false
  | .assertion _ => true
  | .sequence a b => a.canBeEmpty && b.canBeEmpty
  | .choice a b => a.canBeEmpty || b.canBeEmpty
  | .repetition least _ _ e => least == 0 || e.canBeEmpty
  | .group _ e => e.canBeEmpty

/-- An upper bound of the number of instructions that the expression takes. -/
def weight : Expr → Nat
  | .empty => 0
  | .one _ _ => 1
  | .assertion _ => 1
  | .sequence a b => a.weight + b.weight
  | .choice a b => a.weight + b.weight + 1
  | .repetition least none _ e => max least 1 * e.weight + 2
  | .repetition least (some most) _ e => least * e.weight + (most - least) * (e.weight + 1)
  | .group _ e => e.weight + 2

/-- Puts the expression before a program. -/
def before : Expr → Program → Program
  | .empty, p => p
  | .one c ignoreCase, p => p.push (.one c ignoreCase p.start)
  | .assertion a, p => p.push (.assertion a p.start)
  | .sequence a b, p => a.before (b.before p)
  | .choice a b, p =>
    let q := b.before p
    let r := a.before (q.startAt p.start)
    r.push (.branch r.start q.start)
  | .repetition least (some most) greedy e, p =>
    let exit := p.start
    let option (q : Program) : Program :=
      let r := e.before q
      r.push (Program.iteration greedy r.start exit)
    Nat.repeat e.before least (Nat.repeat option (most - least) p)
  | .repetition 0 none greedy e, p => p.zeroOrMore e.before e.canBeEmpty greedy
  | .repetition (least + 1) none greedy e, p =>
    Nat.repeat e.before least (p.oneOrMore e.before greedy)
  | .group index e, p =>
    let q := e.before (p.push (.closing index p.start))
    q.push (.opening index q.start)

def program (e : Expr) : Program :=
  e.before .done

end Expr

end Elementwise.Regex

namespace Elementwise

/-- A compiled pattern with the indices of its named groups. -/
structure Regex where
  program : Regex.Program
  names : List (String × Nat)

end Elementwise
