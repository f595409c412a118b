import Elementwise.Stage
import Elementwise.Value.Decoding

/-!
What a command can fail with.
-/

namespace Elementwise.Command

inductive CommandError where
  | build (e : BuildError)
  | fault (f : Fault)
  | json
  | decode (m : Mismatch)
  | noInput
  | unknownType (name : String)
  | unknownCategory (name : String)
  | faulted (processed faulted : Nat)

namespace CommandError

def message : CommandError → String
  | build e => e.message
  | fault f => "evaluation fault: " ++ f.message
  | json => "invalid JSON"
  | decode m => m.message
  | noInput => "no input provided. Use --input or pipe JSON to stdin."
  | unknownType name =>
    "unknown type: '" ++ name ++ "'\nRun 'quill types' to see available types."
  | unknownCategory name =>
    "unknown category: '" ++ name ++ "'\nRun 'quill docs' to see available categories."
  | faulted total failed =>
    showNat failed ++ " of " ++ showNat total ++ " elements faulted"

end CommandError

end Elementwise.Command
