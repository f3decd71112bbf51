import CodeAtlas.Proofs.Text.Name
import CodeAtlas.Symbol.Parser

/-!
# Modules that only declare

Modules in which every declaration and every member has a line of its own, as data. A `Listing` is
what may stand in a body of its kind, one after the other; a module is what may stand in a namespace.
`Listing.rows` are the lines it is printed as, `Listing.print` is its text, and `Listing.entries` says
which symbols it declares and where.
-/

namespace CodeAtlas

/-- What a symbol declares and where, without its column and the text of its line. -/
structure Entry where
  name : String
  kind : SymbolKind
  container : Option String
  startLine : Nat
  endLine : Nat
  modifiers : List Modifier
  deriving DecidableEq, Repr

/-- The entry of a symbol. -/
def Symbol.entry (symbol : Symbol) : Entry where
  name := symbol.name
  kind := symbol.kind
  container := symbol.containerName
  startLine := symbol.location.startLine
  endLine := symbol.location.endLine
  modifiers := symbol.modifiers

namespace Declaration

open Text (isNamePart isAsciiDigit reservedWords strictWords)

/-- An ASCII identifier that is no special word, at any place. -/
structure Name where
  text : Text
  ne_nil : text ≠ [] := by decide
  chars : ∀ c ∈ text, isNamePart c = true := by decide
  no_digit : ∀ c ∈ text.head?, isAsciiDigit c = false := by decide
  not_reserved : String.ofList text ∉ reservedWords := by decide
  not_strict : String.ofList text ∉ strictWords := by decide
  not_control : String.ofList text ∉ Language.controlKeywords := by decide
  not_modifier : String.ofList text ∉ Language.memberModifiers := by decide
  not_constructor : String.ofList text ≠ "constructor" := by decide

/-- The name as symbols carry it. -/
def Name.word (name : Name) : String :=
  String.ofList name.text

/-- A member of a body that holds no statements. -/
inductive Member : FrameKind → Type where
  /-- `NAME() {}` -/
  | method : Member .ofClass
  /-- `NAME = 1;` -/
  | field : Member .ofClass
  /-- `NAME: string;` -/
  | property : Member .ofInterface
  /-- `NAME(): void;` -/
  | signature : Member .ofInterface
  /-- `NAME,` -/
  | constant : Member .ofEnum

/-- A declaration on one line. -/
inductive Statement where
  /-- `function NAME() {}` -/
  | function
  /-- `type NAME = string;` -/
  | typeAlias
  /-- `const NAME = 1;` -/
  | constant
  /-- `let NAME = 1;` -/
  | variableDef

/-- What stands in a body, one after the other. -/
inductive Listing : FrameKind → Type where
  /-- Nothing more. -/
  | nil {kind : FrameKind} : Listing kind
  /-- A member, then the rest. -/
  | member {kind : FrameKind} (form : Member kind) (name : Name) (rest : Listing kind) : Listing kind
  /-- A declaration on one line, then the rest. -/
  | statement (exported : Bool) (form : Statement) (name : Name) (rest : Listing .ofNamespace) :
      Listing .ofNamespace
  /-- A class, interface, enumeration or namespace with its body, then the rest. -/
  | block (exported : Bool) (kind : FrameKind) (name : Name) (body : Listing kind)
      (rest : Listing .ofNamespace) : Listing .ofNamespace

section Texts

/-- What follows the name of a member. -/
def Member.tail {kind : FrameKind} : Member kind → Text
  | .method => "() ".toList ++ ['{', '}']
  | .field => " = 1;".toList
  | .property => ": string;".toList
  | .signature => "(): void;".toList
  | .constant => [',']

/-- What a member declares. -/
def Member.symbolKind {kind : FrameKind} : Member kind → SymbolKind
  | .method => .method
  | .field => .property
  | .property => .property
  | .signature => .method
  | .constant => .enumMember

/-- The keyword of a declaration on one line. -/
def Statement.keyword : Statement → String
  | .function => "function"
  | .typeAlias => "type"
  | .constant => "const"
  | .variableDef => "let"

/-- What follows the name of a declaration on one line. -/
def Statement.tail : Statement → Text
  | .function => "() ".toList ++ ['{', '}']
  | .typeAlias => " = string;".toList
  | .constant | .variableDef => " = 1;".toList

/-- What a declaration on one line declares. -/
def Statement.symbolKind : Statement → SymbolKind
  | .function => .function
  | .typeAlias => .typeAlias
  | .constant => .constant
  | .variableDef => .variableDef

/-- The keyword of a declaration with a body. -/
def FrameKind.keyword : FrameKind → String
  | .ofClass => "class"
  | .ofInterface => "interface"
  | .ofEnum => "enum"
  | .ofNamespace => "namespace"

/-- What a declaration with a body declares. -/
def FrameKind.symbolKind : FrameKind → SymbolKind
  | .ofClass => .classDef
  | .ofInterface => .interfaceDef
  | .ofEnum => .enumDef
  | .ofNamespace => .namespaceDef

/-- What leads an exported declaration. -/
def lead (exported : Bool) : Text :=
  if exported then "export".toList ++ [' '] else []

/-- The modifiers of a declaration. -/
def leadModifiers (exported : Bool) : List Modifier :=
  if exported then [.exported] else []

/-- What stands in front of the name of a declaration. -/
def words (exported : Bool) (keyword : String) : Text :=
  lead exported ++ (keyword.toList ++ [' '])

/-- The white space in front of a line. -/
def indentation (indent : Nat) : Text :=
  List.replicate indent ' '

/-- A line with a name. -/
def rowOf (indent : Nat) (front : Text) (name : Name) (tail : Text) : Text :=
  indentation indent ++ (front ++ (name.text ++ tail))

/-- The line that closes a body. -/
def closingRow (indent : Nat) : Text :=
  indentation indent ++ ['}']

end Texts

namespace Listing

/-- The lines of a listing, `indent` spaces from the left and each body `width` spaces further. -/
def rows {kind : FrameKind} (width indent : Nat) : Listing kind → List Text
  | .nil => []
  | .member form name rest => rowOf indent [] name form.tail :: rest.rows width indent
  | .statement exported form name rest =>
    rowOf indent (words exported form.keyword) name form.tail :: rest.rows width indent
  | .block exported kind name body rest =>
    rowOf indent (words exported kind.keyword) name [' ', '{'] ::
      (body.rows width (indent + width) ++ closingRow indent :: rest.rows width indent)

/-- The number of lines of a listing. -/
def height {kind : FrameKind} : Listing kind → Nat
  | .nil => 0
  | .member _ _ rest => rest.height + 1
  | .statement _ _ _ rest => rest.height + 1
  | .block _ _ _ body rest => body.height + rest.height + 2

/-- What a listing declares in a container, from line `number` on. -/
def entries {kind : FrameKind} (container : Option String) (number : Nat) : Listing kind → List Entry
  | .nil => []
  | .member form name rest =>
    ⟨name.word, form.symbolKind, container, number, number, []⟩ ::
      rest.entries container (number + 1)
  | .statement exported form name rest =>
    ⟨name.word, form.symbolKind, container, number, number, leadModifiers exported⟩ ::
      rest.entries container (number + 1)
  | .block exported kind name body rest =>
    ⟨name.word, kind.symbolKind, container, number, number + body.height + 1,
        leadModifiers exported⟩ ::
      (body.entries (some name.word) (number + 1) ++
        rest.entries container (number + body.height + 2))

/-- The text of a module, with `blanks` line feeds after its last line. -/
def print (width blanks : Nat) (items : Listing .ofNamespace) : Text :=
  Text.join ['\n'] (items.rows width 0 ++ List.replicate blanks [])

example : (Listing.block true .ofClass { text := ['A'] } (.member .field { text := ['x'] } .nil)
    (.statement false .function { text := ['f'] } .nil)).print 2 1 =
      "export class A \x7b\n  x = 1;\n\x7d\nfunction f() \x7b\x7d\n".toList := by
  decide

end Listing

end Declaration

end CodeAtlas
