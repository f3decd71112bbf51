import CodeAtlas.Grammar.Read
import CodeAtlas.Declaration.Scan
import CodeAtlas.Language
import CodeAtlas.Text.Position

/-!
# Symbols from statements

The symbols of a program in source order: each declaration before its members, bodies of functions
never entered. Modifiers come from the statements around a declaration first, then from its own
words.
-/

namespace CodeAtlas.Grammar

/-- A text whose symbols are collected. -/
structure Program where
  path : Path
  content : Text

namespace Program

/-- The text between two offsets. -/
def textBetween (program : Program) (start stop : Nat) : Text :=
  (Text.slice? program.content start stop).getD []

/-- The spelling of a name. -/
def spelling (program : Program) (name : Name) : Text :=
  program.textBetween name.start name.stop

/-- The head of a declaration on one row of blanks: the text before its body, or its first line. -/
def signature? (program : Program) (extent : Extent) : Option String :=
  let head := match extent.body with
    | some body => program.textBetween extent.start body
    | none => (Text.lines (program.textBetween extent.start extent.stop)).headD []
  Declaration.summary? head

/-- The symbol of a declaration whose name, or else itself, stands at `anchor`. -/
def symbol (program : Program) (name : Text) (kind : SymbolKind) (extent : Extent) (anchor : Nat)
    (container : Option String) (modifiers : List Modifier) : Symbol :=
  { name := String.ofList name
    kind
    location := { Location.new program.path (Text.lineOfOffset program.content anchor)
        (Text.lineOfOffset program.content extent.stop) with
      column := some (Text.columnOfOffset program.content anchor) }
    containerName := container
    modifiers := modifiers.foldl Symbol.withModifier []
    details := program.signature? extent }

/-- A name without the quotes around it. -/
def unquoted (name : Text) : Text :=
  let isQuote (c : Char) : Bool := c = '"' || c = '\'' || c = '`'
  Text.dropEndWhile (name.dropWhile isQuote) isQuote

/-- The symbols of a class member. A constructor brings its parameters. -/
def classMember (program : Program) (className : String) (member : Member) : List Symbol :=
  let name := program.spelling member.name
  let add (kind : SymbolKind) : Symbol :=
    program.symbol name kind member.extent member.name.start (some className) member.modifiers
  match member.kind with
  | .method parameters hasBody =>
    if name = "constructor".toList && hasBody then
      add .constructor :: parameters.map fun parameter =>
        program.symbol (program.spelling parameter.name) .parameter parameter.extent
          parameter.name.start (some (className ++ ".constructor")) parameter.modifiers
    else if Language.isControlKeyword (String.ofList name) then []
    else [add .method]
  | .property isFunction isPrivate =>
    [add (if isFunction then .method else if isPrivate then .field else .property)]

/-- The symbol of an interface member. -/
def interfaceMember (program : Program) (interfaceName : String) (member : Member) : List Symbol :=
  let name := program.spelling member.name
  let add (kind : SymbolKind) : List Symbol :=
    [program.symbol name kind member.extent member.name.start (some interfaceName) member.modifiers]
  match member.kind with
  | .method .. => if Language.isControlKeyword (String.ofList name) then [] else add .method
  | .property .. => add .property

/-- The symbols of a statement and the names it exports, given the container and the modifiers that
the statements around it bring. -/
def collect (program : Program) (container : Option String) :
    (inherited : List Modifier) → Statement → List Symbol × List (String × Bool)
  | inherited, .classDecl extent name modifiers members =>
    let text := (name.map program.spelling).getD "default".toList
    let anchor := (name.map (·.start)).getD extent.start
    (program.symbol text .classDef extent anchor container (inherited ++ modifiers)
      :: members.flatMap (program.classMember (String.ofList text)), [])
  | inherited, .interfaceDecl extent name members =>
    let text := program.spelling name
    (program.symbol text .interfaceDef extent name.start container inherited
      :: members.flatMap (program.interfaceMember (String.ofList text)), [])
  | inherited, .enumDecl extent name members =>
    let text := program.spelling name
    (program.symbol text .enumDef extent name.start container inherited
      :: members.map fun (extent, member) =>
        program.symbol (unquoted (program.spelling member)) .enumMember extent member.start
          (some (String.ofList text)) [], [])
  | inherited, .typeAlias extent name =>
    ([program.symbol (program.spelling name) .typeAlias extent name.start container inherited], [])
  | inherited, .function extent name modifiers =>
    let text := (name.map program.spelling).getD "default".toList
    let anchor := (name.map (·.start)).getD extent.start
    ([program.symbol text .function extent anchor container (inherited ++ modifiers)], [])
  | inherited, .variables isConst declarators =>
    (declarators.flatMap fun declarator =>
      let kind : SymbolKind := match declarator.function with
        | some _ => .function
        | none => if isConst then .constant else .variableDef
      declarator.names.map fun name =>
        program.symbol (program.spelling name) kind declarator.extent name.start container
          (inherited ++ declarator.function.getD []), [])
  | inherited, .namespaceDecl extent name isModule body =>
    let text := unquoted (program.spelling name)
    let kind : SymbolKind := if isModule then .moduleDef else .namespaceDef
    let inner := body.map (collect program (some (String.ofList text)) [])
    (program.symbol text kind extent name.start container inherited :: inner.flatMap (·.1),
      inner.flatMap (·.2))
  | inherited, .ambient inner => collect program container (inherited ++ [.declared]) inner
  | _, .exported isDefault inner =>
    collect program container (if isDefault then [.exported, .defaultExport] else [.exported]) inner
  | _, .exportList names =>
    ([], names.map fun (name, isDefault) => (String.ofList (program.spelling name), isDefault))
  | _, .other => ([], [])

end Program

/-- The symbols that a text declares, in source order. -/
def symbols (path : Path) (content : Text) : List Symbol :=
  let program : Program := ⟨path, content⟩
  let found := (readProgram (Language.allowsMarkup path) content).map (program.collect none [])
  (found.flatMap (·.2)).foldl Declaration.applyExport (found.flatMap (·.1))

end CodeAtlas.Grammar
