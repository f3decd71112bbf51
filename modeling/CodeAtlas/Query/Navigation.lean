import CodeAtlas.Inquiry.Basic
import CodeAtlas.Text.Word
import CodeAtlas.Workspace.Resolution

/-!
# Navigation

From a position in a file to the symbol it is about, to the symbol's definition, and to the classes
that implement or extend it. Symbols are matched by name.
-/

namespace CodeAtlas

/-- A cursor in a file; line and column count from one. -/
structure Position where
  path : Path
  line : Nat
  column : Nat
  deriving DecidableEq, Repr, Inhabited

namespace Navigation

/-- The file of a position. -/
def origin (workspace : Workspace) (position : Position) : Except Failure Path :=
  if position.line = 0 || position.column = 0 then .error (.misuse .zeroPosition)
  else workspace.resolve position.path

/-- The time budget of an operation. -/
def deadline (workspace : Workspace) (operation : Operation) : Deadline :=
  { operation, limit := workspace.config.scanTimeout }

/-- The symbols of files that have a name. Files whose symbols cannot be read are passed over. -/
def namedIn (deadline : Deadline) (name : String) : List Path → Inquiry (List Symbol)
  | [] => pure []
  | file :: rest => do
    Inquiry.check deadline
    let found := match ← Inquiry.attempt (.symbols file) with
      | .ok symbols => symbols.filter (·.name = name)
      | .error _ => []
    return found ++ (← namedIn deadline name rest)

/-- Every symbol with a name, in the order of traversal; a file that is not scanned goes first. -/
def candidates (workspace : Workspace) (file : Path) (name : String) : Inquiry (List Symbol) := do
  let files ← Inquiry.ofExcept (workspace.eligible {})
  let files := if files.contains file then files else file :: files
  namedIn (deadline workspace .definition) name files

/-- The files that a file imports directly. -/
def directDependencies (workspace : Workspace) (file : Path) :
    Inquiry (Except Failure (List Path)) := do
  return (← Inquiry.attempt (.modules file)).map fun module =>
    workspace.internalTargets file module.specifiers false

/-- Whether a file imports something under a name. -/
def importsName (file : Path) (name : String) : Inquiry Bool := do
  match ← Inquiry.attempt (.modules file) with
  | .ok module => pure (module.imports.any (·.binding = name))
  | .error _ => pure false

/-- The definition of a name as seen from a file. Of several symbols, one declared at the top level
of the file goes first unless the file imports the name, then one in a file that it imports, then
the first one. -/
def definitionOf (workspace : Workspace) (file : Path) (name : String) :
    Inquiry (Option Symbol) := do
  let found ← candidates workspace file name
  if found.length ≤ 1 then return found.head?
  let imported ← importsName file name
  let own := found.find? fun symbol => symbol.location.path.same file && symbol.containerName.isNone
  match imported, own with
  | false, some symbol => return some symbol
  | _, _ =>
    let dependencies := (← directDependencies workspace file).toOption.getD []
    return (found.find? fun symbol => dependencies.any (·.same symbol.location.path)).or found.head?

/-- The definition of the identifier under a cursor. -/
def definition (workspace : Workspace) (position : Position) : Inquiry (Option Symbol) := do
  let file ← Inquiry.ofExcept (origin workspace position)
  let content ← Inquiry.get (.content file)
  match Text.identifierAt? content position.line position.column with
  | none => return none
  | some (name, _) => definitionOf workspace file (String.ofList name)

/-- The symbol that a line declares under a name, preferably at a column. -/
def declaredAt? (symbols : List Symbol) (name : String) (line column : Nat) : Option Symbol :=
  let onLine := symbols.filter fun symbol => symbol.name = name && symbol.location.startLine = line
  (onLine.find? (·.location.column = some column)).or onLine.head?

/-- The symbol that a cursor is on: one declared there, else the definition of the identifier. -/
def symbolAt (workspace : Workspace) (position : Position) : Inquiry (Option Symbol) := do
  let file ← Inquiry.ofExcept (origin workspace position)
  let content ← Inquiry.get (.content file)
  match Text.identifierAt? content position.line position.column with
  | none => return none
  | some (name, column) =>
    let symbols ← Inquiry.get (.symbols file)
    match declaredAt? symbols (String.ofList name) position.line column with
    | some symbol => return some symbol
    | none => definitionOf workspace file (String.ofList name)

/-- The class symbol of a header, preferably on the header's line. -/
def classOf? (symbols : List Symbol) (header : ClassHeader) : Option Symbol :=
  let classes := symbols.filter fun symbol => symbol.kind = .classDef && symbol.name = header.name
  (classes.find? (·.location.startLine = header.line)).or classes.head?

/-- The class symbols of files whose headers satisfy a condition. -/
def classesIn (deadline : Deadline) (wanted : ClassHeader → Bool) :
    List Path → Inquiry (List Symbol)
  | [] => pure []
  | file :: rest => do
    Inquiry.check deadline
    let hits := match ← Inquiry.attempt (.headers file) with
      | .ok headers => headers.filter wanted
      | .error _ => []
    let found ← if hits.isEmpty then pure [] else do
      let symbols ← Inquiry.get (.symbols file)
      pure (hits.filterMap (classOf? symbols))
    return found ++ (← classesIn deadline wanted rest)

/-- The class symbols of the workspace whose headers satisfy a condition. -/
def classesWhere (workspace : Workspace) (operation : Operation) (wanted : ClassHeader → Bool) :
    Inquiry (List Symbol) := do
  let files ← Inquiry.ofExcept (workspace.eligible {})
  classesIn (deadline workspace operation) wanted files

/-- The methods of classes in a list of symbols that share the name of another method. -/
def sameMethods (symbols : List Symbol) (target : Symbol) : List Symbol :=
  let classes := (symbols.filter (·.kind = .classDef)).map (·.name)
  symbols.filter fun symbol =>
    symbol.kind = .method && symbol.name = target.name && symbol.location ≠ target.location
      && symbol.containerName.any (classes.contains ·)

/-- The methods of classes in files that share the name of another method. -/
def methodsIn (deadline : Deadline) (target : Symbol) : List Path → Inquiry (List Symbol)
  | [] => pure []
  | file :: rest => do
    Inquiry.check deadline
    let found := match ← Inquiry.attempt (.symbols file) with
      | .ok symbols => sameMethods symbols target
      | .error _ => []
    return found ++ (← methodsIn deadline target rest)

/-- Whether a class says that it implements a name. -/
def isImplementer (name : String) (header : ClassHeader) : Bool :=
  header.kind = .ofClass && header.interfaces.contains name

/-- Whether a class says that it extends a name. -/
def isHeir (name : String) (header : ClassHeader) : Bool :=
  header.kind = .ofClass && header.bases.contains name

/-- The classes that implement the interface under a cursor, or the methods of other classes with
the name of the method under it. -/
def implementations (workspace : Workspace) (position : Position) : Inquiry (List Symbol) := do
  match ← symbolAt workspace position with
  | none => return []
  | some target =>
    if target.kind = .interfaceDef then
      classesWhere workspace .implementations (isImplementer target.name)
    else if target.kind = .method then do
      let files ← Inquiry.ofExcept (workspace.eligible {})
      methodsIn (deadline workspace .implementations) target files
    else return []

/-- The classes that extend the class under a cursor. -/
def derivedClasses (workspace : Workspace) (position : Position) : Inquiry (List Symbol) := do
  match ← symbolAt workspace position with
  | none => return []
  | some target =>
    if target.kind = .classDef then classesWhere workspace .derivedClasses (isHeir target.name)
    else return []

end Navigation

end CodeAtlas
