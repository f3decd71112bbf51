import CodeAtlas.Graph.Build

/-!
# Unused exports

The exported declarations of files that no file of the graph imports. Files that are entry points
are never reported.
-/

namespace CodeAtlas

/-- An exported declaration that nothing imports. -/
structure UnusedExport where
  symbol : Symbol
  /-- The file, relative to the workspace. -/
  file : String
  deriving DecidableEq, Repr, Inhabited

namespace UnusedExport

/-- Why an export counts as unused. -/
def reason : String :=
  "file not imported elsewhere"

/-- The file name up to its first dot. -/
def baseName? (path : Path) : Option String :=
  path.fileName?.map fun name => String.ofList (name.toList.takeWhile (· != '.'))

/-- Whether a file is an entry point. -/
def isEntryPoint (config : Config) (path : Path) : Bool :=
  (baseName? path).any (config.entryPoints.contains ·)

/-- Whether the exports of a node are reported. -/
def isReported (config : Config) (filter : GlobFilter) (node : Node) : Bool :=
  node.dependents.isEmpty && filter.accepts node.relative.toList && !isEntryPoint config node.path

/-- The exports of files. Files whose symbols cannot be read are passed over. -/
def ofNodes (deadline : Deadline) : List Node → Inquiry (List UnusedExport)
  | [] => pure []
  | node :: rest => do
    Inquiry.check deadline
    let found := match ← Inquiry.attempt (.symbols node.path) with
      | .ok symbols =>
        (symbols.filter (·.isTopLevelExport)).map ({ symbol := ·, file := node.relative })
      | .error _ => []
    return found ++ (← ofNodes deadline rest)

/-- The unused exports of a graph, in the order of paths. -/
def find (workspace : Workspace) (graph : Graph) (query : GraphQuery) :
    Inquiry (List UnusedExport) := do
  let filter ← Inquiry.ofExcept (workspace.filter query.scope)
  let deadline : Deadline :=
    { operation := .unusedExports, limit := query.timeout.or workspace.config.scanTimeout }
  ofNodes deadline ((graph.nodes.map (·.2)).filter (isReported workspace.config filter))

end UnusedExport

end CodeAtlas
