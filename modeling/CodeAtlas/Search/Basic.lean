import CodeAtlas.Query.Context
import CodeAtlas.Query.Reference
import CodeAtlas.Search.NameMatcher

/-!
# Searching symbols

Symbols by name and kind. Files are taken whole: a file whose matches do not fit into what is left
of the budget ends the search. References share the same budget.
-/

namespace CodeAtlas

/-- A request for symbols. -/
structure SearchQuery where
  name : String
  kind : Option SymbolKind := none
  scope : Scope := {}
  caseSensitive : Bool := false
  maxResults : Option Nat := none
  withReferences : Bool := false
  contextLines : Option Nat := none
  timeout : Option Nat := none
  deriving DecidableEq, Repr, Inhabited

/-- The symbols found, with references and contexts. -/
structure SearchResult where
  symbols : List Symbol := []
  references : List Reference := []
  contexts : List Context := []
  deriving DecidableEq, Repr, Inhabited

namespace Search

/-- Whether a symbol is looked for. -/
def isWanted (query : SearchQuery) (matcher : NameMatcher) (symbol : Symbol) : Bool :=
  query.kind.all (symbol.kind = ·) && matcher.accepts symbol.name.toList

/-- The wanted symbols of files, as long as all those of a file fit into the budget of `room`. Files
whose symbols cannot be read are passed over. -/
def symbolsIn (deadline : Deadline) (wanted : Symbol → Bool) :
    (room : Nat) → List Path → Inquiry (List Symbol)
  | _, [] => pure []
  | room, file :: rest => do
    Inquiry.check deadline
    match ← Inquiry.attempt (.symbols file) with
    | .error _ => symbolsIn deadline wanted room rest
    | .ok symbols =>
      let found := symbols.filter wanted
      if room < found.length then return []
      else if room = found.length then return found
      else return found ++ (← symbolsIn deadline wanted (room - found.length) rest)

/-- The context of each symbol that has one. -/
def contextsOf (workspace : Workspace) (size : Nat) : List Symbol → Inquiry (List Context)
  | [] => pure []
  | symbol :: rest => do
    let location := symbol.location
    match ← Context.consult workspace location.path location.startLine size with
    | .ok (some context) => return context :: (← contextsOf workspace size rest)
    | _ => contextsOf workspace size rest

/-- The references to symbols, one symbol after another, within a budget. -/
def referencesTo (workspace : Workspace) (scope : Scope) (deadline : Deadline) :
    (room : Nat) → List Symbol → Inquiry (List Reference)
  | _, [] => pure []
  | 0, _ :: _ => pure []
  | room, symbol :: rest => do
    let found ← Reference.collect workspace symbol scope room deadline
    return found ++ (← referencesTo workspace scope deadline (room - found.length) rest)

/-- The number of results that a search may give. -/
def budget (workspace : Workspace) (query : SearchQuery) : Nat :=
  query.maxResults.getD workspace.config.maxResults

/-- The time that a search may take. -/
def deadlineOf (workspace : Workspace) (query : SearchQuery) : Deadline :=
  { operation := .search, limit := query.timeout.or workspace.config.scanTimeout }

/-- The number of lines that a context shows on either side of a symbol. -/
def contextSize (workspace : Workspace) (query : SearchQuery) : Nat :=
  query.contextLines.getD workspace.config.contextLines

/-- The references to symbols, if the request asks for them. -/
def askedReferences (workspace : Workspace) (query : SearchQuery) (symbols : List Symbol) :
    Inquiry (List Reference) :=
  if query.withReferences then
    referencesTo workspace query.scope (deadlineOf workspace query) (budget workspace query) symbols
  else pure []

/-- The result of a search whose request is in order. -/
def findMatching (workspace : Workspace) (query : SearchQuery) (matcher : NameMatcher) :
    Inquiry SearchResult := do
  let files ← Inquiry.ofExcept (workspace.eligible query.scope)
  let symbols ← symbolsIn (deadlineOf workspace query) (isWanted query matcher)
    (budget workspace query) files
  let contexts ← contextsOf workspace (contextSize workspace query) symbols
  let references ← askedReferences workspace query symbols
  return { symbols, references, contexts }

/-- The result of a search. -/
def find (workspace : Workspace) (query : SearchQuery) : Inquiry SearchResult :=
  if (Text.trim query.name.toList).isEmpty then .fail (.misuse .emptyName)
  else if budget workspace query = 0 then .fail (.misuse .noResults)
  else
    match NameMatcher.ofQuery? query.name.toList query.caseSensitive with
    | none => .fail .badPattern
    | some matcher => findMatching workspace query matcher

end Search

end CodeAtlas
