import Elementwise.Command.Run

/-!
The program: maps expressions over elements given as JSON, and documents the expression language.
-/

open Elementwise.Command

/-- Writes what a run of the program has to say. -/
def Elementwise.Command.Exit.report (exit : Exit) : IO UInt32 := do
  IO.print exit.out
  IO.eprint exit.err
  return exit.code.toUInt32

def main (args : List String) : IO UInt32 := do
  match Invocation.ofArguments args with
  | .error _ => (run args "").report
  | .ok invocation =>
    let stdin ← if invocation.needsInput then (← IO.getStdin).readToEnd else pure ""
    (invocation.run stdin).report
