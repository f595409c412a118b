import Elementwise.Command.Check

/-!
Mapping an expression over lines of JSON.  Every line that is not blank gives one line of output or
one line of diagnostics, which carries the number of the line.
-/

namespace Elementwise.Command

/-! ### Lines -/

/-- A line without the carriage return before its line feed. -/
def dropReturn (line : List Char) : List Char :=
  if line.getLast? = some '\r' then line.dropLast else line

/-- The lines of a text; what follows the last line feed is a line unless it is empty. -/
def linesOf : List (List Char) → List (List Char)
  | [] => []
  | [last] => if last.isEmpty then [] else [last]
  | line :: others => dropReturn line :: linesOf others

def lines (text : String) : List String :=
  (linesOf (Text.splitOn '\n' text.toList)).map String.ofList

def isBlank (line : String) : Bool :=
  line.toList.all Text.isSpace

/-! ### Reports -/

/-- The lines written for a stream. -/
structure Report where
  results : List String
  diagnostics : List String

namespace Report

def empty : Report :=
  ⟨[], []⟩

def processed (r : Report) : Nat :=
  r.results.length + r.diagnostics.length

def faulted (r : Report) : Nat :=
  r.diagnostics.length

/-- Lines as text, each with a line feed after it. -/
def text (lines : List String) : String :=
  String.join (lines.map (· ++ "\n"))

end Report

def diagnostic (number : Nat) (e : CommandError) : String :=
  "line " ++ showNat number ++ ": " ++ e.message

/-- Maps the lines from the given number on, up to the first that fails if `failFast` says so. -/
def streamLines (s : Stage) (failFast : Bool) : (number : Nat) → List String → Report
  | _, [] => .empty
  | number, line :: others =>
    if isBlank line then streamLines s failFast (number + 1) others
    else
      match evaluateText s line with
      | .ok v =>
        let rest := streamLines s failFast (number + 1) others
        { rest with results := v.json.print :: rest.results }
      | .error e =>
        let rest := if failFast then .empty else streamLines s failFast (number + 1) others
        { rest with diagnostics := diagnostic number e :: rest.diagnostics }

/-- Maps an expression over the lines of a text. -/
def stream (expression inputType : String) (failFast : Bool) (text : String) :
    Except CommandError Report := do
  let s ← buildStage expression inputType
  .ok (streamLines s failFast 1 (lines text))

end Elementwise.Command
