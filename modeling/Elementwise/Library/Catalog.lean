import Elementwise.Library.Standard
import Elementwise.Text.Search

/-!
Catalogs: which names of the library an expression may use.  Names are compared without regard to
letter case.  A catalog is composed from the symbols of the standard library, which may be given
further names, as long as no name comes to mean two symbols.
-/

namespace Elementwise

/-- A name of a symbol, with the form in which names are compared. -/
structure CatalogEntry where
  key : String
  spelling : String
  symbol : LibrarySymbol

namespace CatalogEntry

def ofSpelling (symbol : LibrarySymbol) (spelling : String) : CatalogEntry :=
  ⟨Text.fold spelling, spelling, symbol⟩

/-- All names of a symbol. -/
def ofSymbol (symbol : LibrarySymbol) : List CatalogEntry :=
  symbol.spellings.map (ofSpelling symbol)

/-- Whether the entry names the symbol, of which names are unique in the library. -/
def names (e : CatalogEntry) (symbol : LibrarySymbol) : Bool :=
  e.symbol.name == symbol.name

end CatalogEntry

/-- The names that can be looked up, in their order of registration. -/
structure Catalog where
  entries : List CatalogEntry

namespace Catalog

def find? (c : Catalog) (key : String) : Option CatalogEntry :=
  c.entries.find? (·.key == key)

def lookup (c : Catalog) (name : String) : Option LibrarySymbol :=
  (c.find? (Text.fold name)).map (·.symbol)

/-- The symbols, each where its first name was registered. -/
def symbols (c : Catalog) : List LibrarySymbol :=
  c.entries.foldl
    (fun found e => if found.any e.names then found else found ++ [e.symbol]) []

/-- The catalog of the whole library. -/
def standard : Catalog :=
  ⟨Library.standard.flatMap CatalogEntry.ofSymbol⟩

/-! ### Type names -/

/-- Resolves a type name given from its last character to its first. -/
def resolveReversed (c : Catalog) : List Char → Option Ty
  | '?' :: cs =>
    match c.resolveReversed cs with
    | some t => if t.isValueType then some (.nullable t) else none
    | none => none
  | ']' :: '[' :: cs => (c.resolveReversed cs).map .array
  | ch :: cs =>
    if Text.isSpace ch then c.resolveReversed cs
    else
      let name := Text.trimStart (ch :: cs).reverse
      (c.lookup (String.ofList name)).bind (·.target?)
  | [] => none

/-- The type with a name such as `int`, `long?` or `DateTime[]`; classes are no types. -/
def resolveType (c : Catalog) (name : String) : Option Ty :=
  c.resolveReversed name.toList.reverse

end Catalog

/-! ### Composing catalogs -/

inductive CatalogError where
  | collision (name existing : String)
  | unknownSymbol (name : String)
  deriving DecidableEq

def CatalogError.message : CatalogError → String
  | collision name existing =>
    "'" ++ name ++ "' collides with an existing entry '" ++ existing ++ "'"
  | unknownSymbol name => "'" ++ name ++ "' is not a library symbol"

/-- The names that a catalog is going to have. -/
structure CatalogBuilder where
  entries : List CatalogEntry

namespace CatalogBuilder

def empty : CatalogBuilder :=
  ⟨[]⟩

def standard : CatalogBuilder :=
  ⟨Library.standard.flatMap CatalogEntry.ofSymbol⟩

/-- The symbol with a name in the whole library. -/
def librarySymbol (name : String) : Except CatalogError LibrarySymbol :=
  match Library.standard.find? fun s => s.spellings.any (Text.fold · == Text.fold name) with
  | some s => .ok s
  | none => .error (.unknownSymbol name)

/-- The symbol with a name among those composed so far. -/
def recordedSymbol (b : CatalogBuilder) (name : String) : Except CatalogError LibrarySymbol :=
  match b.entries.find? (·.key == Text.fold name) with
  | some e => .ok e.symbol
  | none => .error (.unknownSymbol name)

/-- Adds a symbol with all its names, unless it is there. -/
def add (b : CatalogBuilder) (name : String) : Except CatalogError CatalogBuilder :=
  (librarySymbol name).map fun s =>
    if b.entries.any (·.names s) then b else ⟨b.entries ++ CatalogEntry.ofSymbol s⟩

/-- Removes a symbol with all its names. -/
def remove (b : CatalogBuilder) (name : String) : Except CatalogError CatalogBuilder :=
  (b.recordedSymbol name).map fun s => ⟨b.entries.filter (!·.names s)⟩

/-- Gives a symbol that is there another name. -/
def addAlias (b : CatalogBuilder) (spelling name : String) : Except CatalogError CatalogBuilder :=
  (b.recordedSymbol name).map fun s => ⟨b.entries ++ [.ofSpelling s spelling]⟩

/-- Registers one more name; a name that its symbol has already is passed over. -/
def register (c : Catalog) (e : CatalogEntry) : Except CatalogError Catalog :=
  match c.find? e.key with
  | some existing =>
    if existing.names e.symbol then .ok c
    else .error (.collision e.spelling existing.spelling)
  | none => .ok ⟨c.entries ++ [e]⟩

/-- The catalog with the names composed, if each means one symbol. -/
def build (b : CatalogBuilder) : Except CatalogError Catalog :=
  b.entries.foldlM register ⟨[]⟩

end CatalogBuilder

end Elementwise
