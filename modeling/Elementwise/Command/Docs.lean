import Elementwise.Command.Error
import Elementwise.Command.Manual
import Elementwise.Library.Query

/-!
Documentation: the pages of the manual by category, the list of library types, and descriptions of
types made from the library itself.
-/

namespace Elementwise.Command

/-! ### The manual -/

inductive Category where
  | grammar | operators | types | conversions | members | queries | nulls
  deriving DecidableEq

namespace Category

/-- The names of the categories. -/
def names : List (String × Category) :=
  [("syntax", grammar), ("operators", operators), ("ops", operators),
   ("types", types), ("type", types),
   ("conversions", conversions), ("conversion", conversions), ("casts", conversions),
   ("members", members), ("methods", members),
   ("queries", queries), ("query", queries), ("linq", queries),
   ("nulls", nulls), ("null", nulls), ("nullable", nulls)]

/-- The category with a name, in any letter case and with hyphens or underscores. -/
def ofName? (name : String) : Option Category :=
  names.lookup (String.ofList ((Text.fold name).toList.map fun c => if c = '_' then '-' else c))

def page : Category → String
  | grammar => Manual.grammar
  | operators => Manual.operators
  | types => Manual.types
  | conversions => Manual.conversions
  | members => Manual.members
  | queries => Manual.queries
  | nulls => Manual.nulls

end Category

def manualPage (name : String) : Except CommandError String :=
  match Category.ofName? name with
  | some c => .ok c.page
  | none => .error (.unknownCategory name)

/-! ### Types -/

def line (text : String) : String :=
  text ++ "\n"

def joined (parts : List String) : String :=
  ", ".intercalate parts

/-- A text with spaces after it up to a width. -/
def padEnd (width : Nat) (text : String) : String :=
  text ++ String.ofList (List.replicate (width - text.length) ' ')

/-- A symbol in the list of types, with its other names. -/
def listing (s : LibrarySymbol) : String :=
  let aliases := if s.aliases.isEmpty then "" else " (" ++ joined s.aliases ++ ")"
  let kind := if s.target?.isSome then "" else " [class]"
  line ("  " ++ padEnd 28 (s.name ++ aliases ++ kind) ++ s.summary)

def typeList : String :=
  line "LIBRARY TYPES" ++ line "" ++ String.join (Catalog.standard.symbols.map listing) ++
    line "" ++ line "Append '?' for a nullable type and '[]' for an array, e.g. 'int?' or 'DateTime[]'."

def signatureText (name : String) (s : Signature) : String :=
  name ++ "(" ++ joined (s.params.map Ty.name) ++ ") -> " ++ s.result.name

def memberText : Member → String
  | .constant name ty value => line ("  " ++ name ++ ": " ++ ty.name ++ " = " ++ value.text)
  | .property name ty _ => line ("  " ++ name ++ ": " ++ ty.name)
  | .method name overloads =>
    String.join (overloads.map fun s => line ("  " ++ signatureText name s))

def memberTexts (members : List Member) : String :=
  String.join (members.map memberText)

def upperText (s : String) : String :=
  String.ofList (Text.upper s.toList)

def describeSymbol (s : LibrarySymbol) : String :=
  line (upperText s.name ++ " - " ++ s.summary) ++
    (if s.aliases.isEmpty then ""
     else line "" ++ line "ALSO SPELLED" ++ line ("  " ++ joined s.aliases)) ++
    (if s.members.isEmpty then ""
     else line "" ++ line "STATIC MEMBERS" ++ memberTexts s.members)

/-- The members of values of a type, and its query operators. -/
def describeValues (t : Ty) : String :=
  line "" ++ line "INSTANCE MEMBERS" ++ memberTexts t.members ++
    (if t.isEnumerable then
       line "" ++ line "QUERY OPERATORS" ++
         String.join (QueryOperator.table.map fun (_, _, usage) => line ("  " ++ usage))
     else "")

/-- Describes a symbol of the library, or a type made from one. -/
def describe (name : String) : Except CommandError String :=
  match Catalog.standard.lookup (String.ofList (Text.trim name.toList)) with
  | some s =>
    match s.target? with
    | some t =>
      .ok (describeSymbol s ++ line "" ++ line "CONVERSION" ++
        line ("  " ++ s.name ++ "(value) -> " ++ t.name) ++ describeValues t)
    | none => .ok (describeSymbol s)
  | none =>
    match Catalog.standard.resolveType name with
    | some t => .ok (line (upperText t.name) ++ describeValues t)
    | none => .error (.unknownType name)

end Elementwise.Command
