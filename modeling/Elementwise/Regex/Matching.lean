import Elementwise.Regex.Program

/-!
Matching.  Of all matches that begin first, the one wins that the pattern prefers: an earlier
alternative before a later one, and a longer greedy repetition before a shorter one.  All ways
through the program advance together, one character at a time and the preferred ones first; of two
that meet at an instruction, only the preferred one goes on.
-/

namespace Elementwise.Regex

/-- A place in a text. -/
structure Place where
  position : Nat
  previous : Option Char
  rest : List Char

def isWord (ascii : Bool) : Option Char → Bool
  | some c => Text.isWordChar c && (!ascii || Text.isAscii c)
  | none => false

def Assertion.holds (a : Assertion) (s : Place) : Bool :=
  match a with
  | .textStart => s.previous.isNone
  | .textEnd => s.rest.isEmpty
  | .lineStart => s.previous.isNone || s.previous == some '\n'
  | .lineEnd => s.rest.isEmpty || s.rest.head? == some '\n'
  | .boundary ascii negated => (isWord ascii s.previous != isWord ascii s.rest.head?) != negated
  | .wordStart ascii => !isWord ascii s.previous && isWord ascii s.rest.head?
  | .wordEnd ascii => isWord ascii s.previous && !isWord ascii s.rest.head?
  | .noWordBefore ascii => !isWord ascii s.previous
  | .noWordAfter ascii => !isWord ascii s.rest.head?

/-! ### Threads -/

/-- What the groups have matched, the last match first: group, start and end. -/
abbrev Groups := List (Nat × Nat × Nat)

/-- A way through the program that has come to an instruction.  `opened` holds where its groups
began. -/
structure Thread where
  instruction : Nat
  opened : List (Nat × Nat)
  groups : Groups

namespace Thread

def goTo (t : Thread) (i : Nat) : Thread :=
  { t with instruction := i }

def openGroup (t : Thread) (index position : Nat) : Thread :=
  { t with opened := (index, position) :: t.opened }

def closeGroup (t : Thread) (index position : Nat) : Thread :=
  match t.opened.lookup index with
  | some start => { t with groups := (index, start, position) :: t.groups }
  | none => t

end Thread

namespace Program

/-- Leads threads on to the instructions that take a character or accept, in order of preference.
A thread ends where `seen` has been before, and `fuel` bounds the number of steps. -/
def advance (p : Program) (s : Place) : (fuel : Nat) → (seen : List Nat) → List Thread → List Thread
  | 0, _, _ => []
  | _, _, [] => []
  | fuel + 1, seen, t :: ts =>
    if seen.contains t.instruction then p.advance s fuel seen ts
    else
      let seen := t.instruction :: seen
      match p.instructions[t.instruction]? with
      | some (.assertion a next) =>
        if a.holds s then p.advance s fuel seen (t.goTo next :: ts) else p.advance s fuel seen ts
      | some (.opening index next) =>
        p.advance s fuel seen ((t.openGroup index s.position).goTo next :: ts)
      | some (.closing index next) =>
        p.advance s fuel seen ((t.closeGroup index s.position).goTo next :: ts)
      | some (.branch first second) =>
        p.advance s fuel seen (t.goTo first :: t.goTo second :: ts)
      | _ => t :: p.advance s fuel seen ts

/-- Every instruction is seen once and adds at most two threads, which bounds the steps. -/
def threadsAt (p : Program) (s : Place) (ts : List Thread) : List Thread :=
  p.advance s (2 * p.instructions.size + ts.length) [] ts

def accepts (p : Program) (t : Thread) : Bool :=
  match p.instructions[t.instruction]? with
  | some .accept => true
  | _ => false

/-- The thread after a character, if its instruction takes it. -/
def step? (p : Program) (c : Char) (t : Thread) : Option Thread :=
  match p.instructions[t.instruction]? with
  | some (.one k ignoreCase next) => if k.contains ignoreCase c then some (t.goTo next) else none
  | _ => none

/-- Runs threads to the end of the text.  A thread that accepts ends those after it, and its match
is `found` unless one before it accepts later. -/
def run (p : Program) (found : Option (Place × Groups)) (ts : List Thread) (position : Nat)
    (previous : Option Char) (rest : List Char) : Option (Place × Groups) :=
  let found := match ts.find? p.accepts with
    | some t => some (⟨position, previous, rest⟩, t.groups)
    | none => found
  match rest with
  | [] => found
  | c :: rest =>
    let moved := (ts.takeWhile (!p.accepts ·)).filterMap (p.step? c)
    if moved.isEmpty then found
    else p.run found (p.threadsAt ⟨position + 1, some c, rest⟩ moved) (position + 1) (some c) rest

/-- The end of the match that begins at a place, with what its groups matched. -/
def matchAt? (p : Program) (s : Place) : Option (Place × Groups) :=
  p.run none (p.threadsAt s [⟨p.start, [], []⟩]) s.position s.previous s.rest

end Program

/-! ### Matches -/

/-- A match: where it begins, the place where it ends and what its groups matched. -/
structure Match where
  start : Nat
  finish : Place
  groups : Groups

/-- The match that begins first at or after a place. -/
def searchFrom (r : Regex) (position : Nat) (previous : Option Char) (rest : List Char) :
    Option Match :=
  match r.program.matchAt? ⟨position, previous, rest⟩ with
  | some (finish, groups) => some ⟨position, finish, groups⟩
  | none =>
    match rest with
    | [] => none
    | c :: rest => searchFrom r (position + 1) (some c) rest

def isMatch (r : Regex) (text : List Char) : Bool :=
  (r.searchFrom 0 none text).isSome

/-- The extent of a group in a match; group zero is the match itself. -/
def Match.group? (m : Match) (index : Nat) : Option (Nat × Nat) :=
  if index = 0 then some (m.start, m.finish.position) else m.groups.lookup index

/-- The matches from left to right.  An empty match where the last one ended is passed over, and
`fuel` bounds their number. -/
def matchesFrom (r : Regex) (lastEnd : Option Nat) : (fuel : Nat) → Place → List Match
  | 0, _ => []
  | fuel + 1, s =>
    let accept (m : Match) : List Match :=
      m :: matchesFrom r (some m.finish.position) fuel m.finish
    match r.searchFrom s.position s.previous s.rest with
    | none => []
    | some m =>
      if m.start = m.finish.position ∧ lastEnd = some m.start then
        match s.rest with
        | [] => []
        | c :: rest =>
          match r.searchFrom (s.position + 1) (some c) rest with
          | none => []
          | some m => accept m
      else accept m

def allMatches (r : Regex) (text : List Char) : List Match :=
  r.matchesFrom none (text.length + 1) ⟨0, none, text⟩

end Elementwise.Regex
