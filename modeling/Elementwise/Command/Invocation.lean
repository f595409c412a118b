import Elementwise.Text.Search

/-!
The arguments of the program: a command, its options and its operands.  Options are written `-x`,
`--name`, with a value after a space, after `=` or, for short ones, right behind; short options
without values may be run together.  Everything after `--` is an operand.
-/

namespace Elementwise.Command

/-- What the program is asked to do. -/
inductive Invocation where
  | help
  | version
  | check (expression inputType : String) (input : Option String) (pretty syntaxOnly : Bool)
  | stream (expression inputType : String) (input : Option String) (failFast : Bool)
  | types
  | describe (name : String)
  | docs
  | manualPage (category : String)

inductive UsageError where
  | missingCommand
  | unknownCommand (name : String)
  | unexpectedArgument (arg : String)
  | missingValue (option : String)
  | repeatedOption (option : String)
  | missingArgument (name : String)

def UsageError.message : UsageError → String
  | missingCommand => "error: a command is required"
  | unknownCommand name => "error: unrecognized command '" ++ name ++ "'"
  | unexpectedArgument arg => "error: unexpected argument '" ++ arg ++ "'"
  | missingValue option => "error: a value is required for '--" ++ option ++ "'"
  | repeatedOption option => "error: '--" ++ option ++ "' cannot be used multiple times"
  | missingArgument name => "error: the argument <" ++ name ++ "> is required"

/-! ### Options -/

structure OptionSpec where
  long : String
  short? : Option Char
  takesValue : Bool

namespace OptionSpec

def verbose : OptionSpec :=
  ⟨"verbose", some 'v', false⟩

def help : OptionSpec :=
  ⟨"help", some 'h', false⟩

def version : OptionSpec :=
  ⟨"version", some 'V', false⟩

def inputType : OptionSpec :=
  ⟨"input-type", some 't', true⟩

def input : OptionSpec :=
  ⟨"input", some 'i', true⟩

def pretty : OptionSpec :=
  ⟨"pretty", some 'p', false⟩

def syntaxOnly : OptionSpec :=
  ⟨"syntax-only", none, false⟩

def failFast : OptionSpec :=
  ⟨"fail-fast", none, false⟩

/-- The options that every command has. -/
def common : List OptionSpec :=
  [verbose, help]

end OptionSpec

/-- An argument of the command line, read for itself. -/
inductive Piece where
  | operand (text : String)
  /-- an option, with the value if it takes one -/
  | option (spec : OptionSpec) (value : String)
  /-- an option whose value is the next argument -/
  | awaiting (spec : OptionSpec)

/-- Reads options without values that are run together, the last of which may take a value. -/
def shortOptions (specs : List OptionSpec) (arg : String) :
    List Char → Except UsageError (List Piece)
  | [] => .ok []
  | c :: cs =>
    match specs.find? (·.short? == some c) with
    | none => .error (.unexpectedArgument arg)
    | some spec =>
      if spec.takesValue then
        match cs with
        | [] => .ok [.awaiting spec]
        | '=' :: value => .ok [.option spec (String.ofList value)]
        | value => .ok [.option spec (String.ofList value)]
      else (shortOptions specs arg cs).map (.option spec "" :: ·)

def longOption (specs : List OptionSpec) (arg : String) (body : List Char) :
    Except UsageError (List Piece) :=
  let (name, value?) := match Text.splitOnce? '=' body with
    | some (name, value) => (name, some (String.ofList value))
    | none => (body, none)
  match specs.find? (·.long == String.ofList name), value? with
  | none, _ => .error (.unexpectedArgument arg)
  | some spec, some value =>
    if spec.takesValue then .ok [.option spec value] else .error (.unexpectedArgument arg)
  | some spec, none => .ok [if spec.takesValue then .awaiting spec else .option spec ""]

/-- Whether an argument is written like an option. -/
def looksLikeOption (arg : String) : Bool :=
  match arg.toList with
  | '-' :: _ :: _ => true
  | _ => false

def pieces (specs : List OptionSpec) (arg : String) : Except UsageError (List Piece) :=
  match arg.toList with
  | '-' :: '-' :: body => longOption specs arg body
  | '-' :: c :: cs => shortOptions specs arg (c :: cs)
  | _ => .ok [.operand arg]

/-! ### Commands -/

/-- The options and operands of a command. -/
structure Parsed where
  options : List (String × String)
  operands : List String

namespace Parsed

def value? (p : Parsed) (spec : OptionSpec) : Option String :=
  p.options.lookup spec.long

def given (p : Parsed) (spec : OptionSpec) : Bool :=
  (p.value? spec).isSome

def addOption (p : Parsed) (spec : OptionSpec) (value : String) : Except UsageError Parsed :=
  if p.given spec then .error (.repeatedOption spec.long)
  else .ok { p with options := (spec.long, value) :: p.options }

/-- Adds an operand, if the command takes so many. -/
def addOperand (p : Parsed) (limit : Nat) (text : String) : Except UsageError Parsed :=
  if p.operands.length < limit then .ok { p with operands := p.operands ++ [text] }
  else .error (.unexpectedArgument text)

/-- Adds the pieces of one argument; the option that awaits the next argument is returned. -/
def addPieces (limit : Nat) (p : Parsed) :
    List Piece → Except UsageError (Parsed × Option OptionSpec)
  | [] => .ok (p, none)
  | .operand text :: rest => do (← p.addOperand limit text).addPieces limit rest
  | .option spec value :: rest => do (← p.addOption spec value).addPieces limit rest
  | .awaiting spec :: _ => .ok (p, some spec)

/-- Reads the arguments of a command that has these options and takes `limit` operands at most. -/
def read (specs : List OptionSpec) (limit : Nat) (p : Parsed) (awaiting : Option OptionSpec) :
    List String → Except UsageError Parsed
  | [] =>
    match awaiting with
    | some spec => .error (.missingValue spec.long)
    | none => .ok p
  | arg :: args =>
    match awaiting with
    | some spec => do
      if looksLikeOption arg then .error (.missingValue spec.long)
      else read specs limit (← p.addOption spec arg) none args
    | none => do
      if arg = "--" then args.foldlM (fun p text => p.addOperand limit text) p
      else
        let (p, awaiting) ← p.addPieces limit (← pieces specs arg)
        -- a request for help is answered without a look at the other arguments
        if p.given .help then .ok p else read specs limit p awaiting args

end Parsed

namespace Invocation

/-- Reads the arguments of a command, and makes the invocation unless help is asked for. -/
def readCommand (specs : List OptionSpec) (limit : Nat) (args : List String)
    (make : Parsed → Except UsageError Invocation) : Except UsageError Invocation := do
  let p ← Parsed.read (specs ++ OptionSpec.common) limit ⟨[], []⟩ none args
  if p.given .help then .ok help else make p

def operand (p : Parsed) (name : String) : Except UsageError String :=
  match p.operands with
  | text :: _ => .ok text
  | [] => .error (.missingArgument name)

def inputTypeOf (p : Parsed) : String :=
  (p.value? .inputType).getD "object"

/-- Reads the arguments after the name of a command. -/
def ofCommand (command : String) (args : List String) : Except UsageError Invocation :=
  match command with
  | "check" =>
    readCommand [.inputType, .input, .pretty, .syntaxOnly] 1 args fun p => do
      let expression ← operand p "EXPRESSION"
      .ok (check expression (inputTypeOf p) (p.value? .input) (p.given .pretty)
        (p.given .syntaxOnly))
  | "stream" =>
    readCommand [.inputType, .input, .failFast] 1 args fun p => do
      let expression ← operand p "EXPRESSION"
      .ok (stream expression (inputTypeOf p) (p.value? .input) (p.given .failFast))
  | "types" => readCommand [] 0 args fun _ => .ok types
  | "describe" => readCommand [] 1 args fun p => do .ok (describe (← operand p "NAME"))
  | "docs" => readCommand [] 0 args fun _ => .ok docs
  | "doc" => readCommand [] 1 args fun p => do .ok (manualPage (← operand p "CATEGORY"))
  | "help" => .ok help
  | name => .error (.unknownCommand name)

/-- Reads the arguments from the options before the command on; `p` holds those that were read. -/
def ofArgumentsAfter (p : Parsed) : List String → Except UsageError Invocation
  | [] => .error .missingCommand
  | arg :: args => do
    match ← pieces (.version :: OptionSpec.common) arg with
    | [.operand command] => ofCommand command args
    | options =>
      let (p, _) ← p.addPieces 0 options
      if p.given .help then .ok help
      else if p.given .version then .ok version
      else ofArgumentsAfter p args

/-- Reads the arguments of the program. -/
def ofArguments (args : List String) : Except UsageError Invocation :=
  ofArgumentsAfter ⟨[], []⟩ args

end Invocation

end Elementwise.Command
