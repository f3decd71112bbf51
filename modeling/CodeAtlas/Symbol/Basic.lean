import CodeAtlas.Path
import CodeAtlas.Text.Casing

/-!
# Symbols

A symbol is a named declaration with its kind, its place and the modifiers written on it. Symbols
are flat records: which symbol belongs to which is recorded by name, and `CodeAtlas.Symbol.Outline`
turns a list of them into a forest.
-/

namespace CodeAtlas

/-- What a symbol declares. -/
inductive SymbolKind where
  | moduleDef
  | namespaceDef
  | classDef
  | interfaceDef
  | enumDef
  | enumMember
  | method
  | constructor
  | property
  | field
  | function
  | variableDef
  | constant
  | parameter
  | typeAlias
  deriving DecidableEq, Repr, Inhabited

namespace SymbolKind

/-- Every kind, in the order in which a name is looked up. -/
def all : List SymbolKind :=
  [.moduleDef, .namespaceDef, .classDef, .interfaceDef, .enumDef, .enumMember, .method,
    .constructor, .property, .field, .function, .variableDef, .constant, .parameter, .typeAlias]

/-- The word for a kind. -/
def word : SymbolKind → String
  | .moduleDef => "module"
  | .namespaceDef => "namespace"
  | .classDef => "class"
  | .interfaceDef => "interface"
  | .enumDef => "enum"
  | .enumMember => "enumMember"
  | .method => "method"
  | .constructor => "constructor"
  | .property => "property"
  | .field => "field"
  | .function => "function"
  | .variableDef => "variable"
  | .constant => "constant"
  | .parameter => "parameter"
  | .typeAlias => "typeAlias"

/-- The kinds whose body can hold other symbols. -/
def isContainer : SymbolKind → Bool
  | .moduleDef | .namespaceDef | .classDef | .interfaceDef | .enumDef => true
  | _ => false

/-- The kinds that can be called. -/
def isCallable : SymbolKind → Bool
  | .function | .method | .constructor => true
  | _ => false

/-- The kind that a word names; case, underscores and hyphens do not matter. -/
def ofWord? (text : String) : Option SymbolKind :=
  let normal := Text.lowercase (text.toList.filter fun c => c != '_' && c != '-')
  all.find? fun kind => Text.lowercase kind.word.toList = normal

end SymbolKind

/-- A keyword written on a declaration. -/
inductive Modifier where
  | exported
  | defaultExport
  | publicAccess
  | privateAccess
  | protectedAccess
  | static
  | readonly
  | async
  | abstract
  | declared
  deriving DecidableEq, Repr, Inhabited

namespace Modifier

/-- Every modifier. -/
def all : List Modifier :=
  [.exported, .defaultExport, .publicAccess, .privateAccess, .protectedAccess, .static, .readonly,
    .async, .abstract, .declared]

/-- The keyword of a modifier. -/
def keyword : Modifier → String
  | .exported => "export"
  | .defaultExport => "default"
  | .publicAccess => "public"
  | .privateAccess => "private"
  | .protectedAccess => "protected"
  | .static => "static"
  | .readonly => "readonly"
  | .async => "async"
  | .abstract => "abstract"
  | .declared => "declare"

/-- The modifier with the given keyword. -/
def ofKeyword? (text : String) : Option Modifier :=
  all.find? (·.keyword = text)

end Modifier

/-- Where a symbol or an occurrence lives. Lines count from one; a symbol's first line and column
are those of its name, its last line is that of its declaration's end. -/
structure Location where
  path : Path
  startLine : Nat
  endLine : Nat
  column : Option Nat := none
  deriving DecidableEq, Repr, Inhabited

namespace Location

/-- A place without a column; it never ends before it starts. -/
def new (path : Path) (startLine endLine : Nat) : Location :=
  { path, startLine, endLine := max endLine startLine }

/-- Whether a line lies between the first and the last line. -/
def containsLine (location : Location) (line : Nat) : Bool :=
  location.startLine ≤ line && line ≤ location.endLine

/-- The number of lines from the first to the last. -/
def span (location : Location) : Nat :=
  location.endLine - location.startLine

/-- Whether a path, line and column are where the name of this location stands. -/
def isAnchoredAt (location : Location) (path : Path) (line column : Nat) : Bool :=
  location.path.same path && location.startLine = line && location.column = some column

end Location

/-- A named declaration. -/
structure Symbol where
  name : String
  kind : SymbolKind
  location : Location
  containerName : Option String := none
  modifiers : List Modifier := []
  details : Option String := none
  deriving DecidableEq, Repr, Inhabited

namespace Symbol

/-- Whether the symbol carries a modifier. -/
def hasModifier (symbol : Symbol) (modifier : Modifier) : Bool :=
  symbol.modifiers.contains modifier

/-- The modifiers with one more at the end, unless it is there already. -/
def withModifier (modifiers : List Modifier) (modifier : Modifier) : List Modifier :=
  if modifiers.contains modifier then modifiers else modifiers ++ [modifier]

/-- The symbol with one more modifier. -/
def addModifier (symbol : Symbol) (modifier : Modifier) : Symbol :=
  { symbol with modifiers := withModifier symbol.modifiers modifier }

/-- Exported, and not as a member of something else. -/
def isTopLevelExport (symbol : Symbol) : Bool :=
  symbol.containerName.isNone && symbol.hasModifier .exported

/-- The name under which members may record this symbol as their container. -/
def qualifiedName (symbol : Symbol) : String :=
  match symbol.containerName with
  | some container => container ++ "." ++ symbol.name
  | none => symbol.name

/-- Whether `container` names this symbol, plainly or qualified. -/
def isNamed (symbol : Symbol) (container : String) : Bool :=
  symbol.name = container || symbol.qualifiedName = container

end Symbol

end CodeAtlas
