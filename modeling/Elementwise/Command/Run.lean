import Elementwise.Command.Docs
import Elementwise.Command.Invocation
import Elementwise.Command.Stream

/-!
Running the program: from its arguments and its input to its output and exit code.
-/

namespace Elementwise.Command

/-- What the program writes, and the code that it exits with. -/
structure Exit where
  code : Nat
  out : String
  err : String

namespace Exit

def success (out : String) : Exit :=
  ⟨0, out, ""⟩

/-- A failed command; what it wrote before stays written. -/
def failure (out err : String) (e : CommandError) : Exit :=
  ⟨1, out, err ++ line e.message⟩

def ofOutcome (outcome : Except CommandError String) : Exit :=
  match outcome with
  | .ok out => success out
  | .error e => failure "" "" e

end Exit

/-- How the program is used. -/
def usage : String :=
  Manual.page
    ["Quill - compile a typed expression once and map it over JSON elements",
     "",
     "Usage: quill [OPTIONS] <COMMAND>",
     "",
     "Commands:",
     "  check     Build an expression and evaluate it against one JSON input",
     "  stream    Evaluate an expression for every line of newline-delimited JSON",
     "  types     List library types",
     "  describe  Show the members of a library type",
     "  docs      List documentation categories",
     "  doc       Show documentation for a specific category",
     "  help      Print this message or the help of the given subcommand(s)",
     "",
     "Options:",
     "  -v, --verbose  Log build details to stderr (overrides QUILL_LOG)",
     "  -h, --help     Print help",
     "  -V, --version  Print version"]

def versionText : String :=
  line "quill 0.1.0"

/-- A checked value as it is printed. -/
def checkText (expression inputType : String) (input : Option String) (pretty syntaxOnly : Bool) :
    Except CommandError String := do
  if syntaxOnly then
    checkSyntax expression
    .ok (line "Syntax is valid")
  else
    let (_, v) ← check expression inputType input
    .ok (line (if pretty then v.json.printIndented else v.json.print))

def streamExit (expression inputType : String) (failFast : Bool) (text : String) : Exit :=
  match stream expression inputType failFast text with
  | .error e => .failure "" "" e
  | .ok r =>
    let out := Report.text r.results
    if r.faulted = 0 then .success out
    else .failure out (Report.text r.diagnostics) (.faulted r.processed r.faulted)

namespace Invocation

/-- Whether the program has to read its standard input. -/
def needsInput : Invocation → Bool
  | check _ _ input _ syntaxOnly => input.isNone && !syntaxOnly
  | stream _ _ input _ => input.isNone
  | _ => false

/-- Does what is asked for; `stdin` is the standard input. -/
def run (invocation : Invocation) (stdin : String) : Exit :=
  match invocation with
  | help => .success usage
  | version => .success versionText
  | check expression inputType input pretty syntaxOnly =>
    .ofOutcome (checkText expression inputType (some (input.getD stdin)) pretty syntaxOnly)
  | stream expression inputType input failFast =>
    streamExit expression inputType failFast (input.getD stdin)
  | types => .success typeList
  | describe name => .ofOutcome (Command.describe name)
  | docs => .success Manual.overview
  | manualPage category => .ofOutcome (Command.manualPage category)

end Invocation

/-- Runs the program on its arguments. -/
def run (args : List String) (stdin : String) : Exit :=
  match Invocation.ofArguments args with
  | .ok invocation => invocation.run stdin
  | .error e => ⟨2, "", line e.message⟩

end Elementwise.Command
