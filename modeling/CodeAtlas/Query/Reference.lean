import CodeAtlas.Query.Navigation

/-!
# References

The definition of a symbol and every whole-word occurrence of its name in the selected files.
Occurrences in statements that only bind imported names are no uses.
-/

namespace CodeAtlas

/-- A place where a symbol is defined or used. -/
structure Reference where
  symbol : Symbol
  location : Location
  isDefinition : Bool
  /-- The line without the blanks around it. -/
  line : Text
  deriving DecidableEq, Repr, Inhabited

/-- What references are looked for. -/
inductive ReferenceTarget where
  | symbol (symbol : Symbol)
  | position (position : Position)
  deriving DecidableEq, Repr, Inhabited

/-- A request for references. -/
structure ReferenceQuery where
  target : ReferenceTarget
  scope : Scope := {}
  maxResults : Option Nat := none
  timeout : Option Nat := none
  deriving DecidableEq, Repr, Inhabited

namespace Reference

/-- Whether an occurrence is the name in the symbol's own definition. Without a column that is every
occurrence on the definition's line. -/
def isAnchor (symbol : Symbol) (file : Path) (line column : Nat) : Bool :=
  match symbol.location.column with
  | some _ => symbol.location.isAnchoredAt file line column
  | none => symbol.location.path.same file && symbol.location.startLine = line

/-- The uses on one line of a file, which starts at the byte `offset`. -/
def onLine (symbol : Symbol) (file : Path) (module : Option ModuleSyntax) (number offset : Nat)
    (text : Text) : List Reference :=
  (Text.wordOccurrences text symbol.name.toList).filterMap fun (byte, column) =>
    if isAnchor symbol file number column then none
    else if module.any (·.isBindingOffset (offset + byte)) then none
    else some {
      symbol
      location := { Location.new file number number with column := some column }
      isDefinition := false
      line := Text.trim text }

/-- The uses on lines of a file, the first of which has the given number and starts at the byte
`offset`. -/
def onLines (symbol : Symbol) (file : Path) (module : Option ModuleSyntax) :
    (number offset : Nat) → List Text → List Reference
  | _, _, [] => []
  | number, offset, raw :: rest =>
    onLine symbol file module number offset (Text.dropReturn raw)
      ++ onLines symbol file module (number + 1) (offset + Text.byteLength raw + 1) rest

/-- The uses in a file. -/
def inFile (symbol : Symbol) (file : Path) (module : Option ModuleSyntax) (content : Text) :
    List Reference :=
  onLines symbol file module 1 0 (Text.splitBy (· = '\n') content)

/-- At most `room` uses in files. Unreadable files are passed over. -/
def inFiles (deadline : Deadline) (symbol : Symbol) : (room : Nat) → List Path →
    Inquiry (List Reference)
  | _, [] => pure []
  | room, file :: rest => do
    Inquiry.check deadline
    match ← Inquiry.attempt (.content file) with
    | .error _ => inFiles deadline symbol room rest
    | .ok content =>
      if Text.contains content symbol.name.toList then do
        let module := (← Inquiry.attempt (.modules file)).toOption
        let uses := inFile symbol file module content
        if room < uses.length then return uses.take room
        else return uses ++ (← inFiles deadline symbol (room - uses.length) rest)
      else inFiles deadline symbol room rest

/-- The definition of a symbol, with the line it stands on if that can be read. -/
def definitionOf (symbol : Symbol) : Inquiry Reference := do
  let line := match ← Inquiry.attempt (.content symbol.location.path) with
    | .ok content => ((Text.lines content)[symbol.location.startLine - 1]?.map Text.trim).getD []
    | .error _ => []
  pure { symbol, location := symbol.location, isDefinition := true, line }

/-- At most `max` references to a symbol, the definition first. -/
def collect (workspace : Workspace) (symbol : Symbol) (scope : Scope) (max : Nat)
    (deadline : Deadline) : Inquiry (List Reference) :=
  match max with
  | 0 => pure []
  | room + 1 => do
    let definition ← definitionOf symbol
    let files ← Inquiry.ofExcept (workspace.eligible scope)
    return definition :: (← inFiles deadline symbol room files)

/-- The symbol whose references are looked for. -/
def target (workspace : Workspace) : ReferenceTarget → Inquiry (Option Symbol)
  | .symbol symbol => do
    let path ← Inquiry.ofExcept (workspace.resolve symbol.location.path)
    return some { symbol with location := { symbol.location with path } }
  | .position position => Navigation.symbolAt workspace position

/-- The references of a request. -/
def find (workspace : Workspace) (query : ReferenceQuery) : Inquiry (List Reference) := do
  match ← target workspace query.target with
  | none => return []
  | some symbol =>
    collect workspace symbol query.scope (query.maxResults.getD workspace.config.maxResults)
      { operation := .references, limit := query.timeout.or workspace.config.scanTimeout }

end Reference

end CodeAtlas
