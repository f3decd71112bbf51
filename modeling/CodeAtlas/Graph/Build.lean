import CodeAtlas.Graph.Basic
import CodeAtlas.Inquiry.Basic
import CodeAtlas.Workspace.Resolution

/-!
# Building the dependency graph

The selected files are the first level. The files that a level imports and that have not been found
yet are the next one, until the allowed number of hops is used up. Files that cannot be read are no
nodes, and edges to what is no node are dropped at the end.
-/

namespace CodeAtlas

/-- A request for a dependency graph. -/
structure GraphQuery where
  scope : Scope := {}
  /-- Follow imports of installed packages. -/
  withPackages : Bool := false
  /-- The largest number of hops from a selected file. -/
  maxDepth : Option Nat := none
  timeout : Option Nat := none
  deriving DecidableEq, Repr, Inhabited

/-- What decides the shape of the graph: the time budget does not. -/
def GraphQuery.key (query : GraphQuery) : GraphQuery :=
  { query with timeout := none }

namespace GraphBuild

/-- A file that was read: its node without edges, and where its specifiers lead. -/
structure FileScan where
  node : Node
  targets : List Resolution
  deriving Inhabited

/-- What has been found so far. -/
structure State where
  /-- The nodes, newest first. -/
  nodes : List Node := []
  externals : List String := []
  /-- Every file that belongs to a level. -/
  discovered : List Path := []
  /-- The files of the next level. -/
  next : List Path := []
  deriving Inhabited

/-- What the module statements of a file say. -/
def scanOf (workspace : Workspace) (withPackages : Bool) (path : Path) (module : ModuleSyntax) :
    FileScan where
  node := { path, relative := workspace.relative path
            imports := module.imports, exports := module.exports }
  targets := module.specifiers.map fun specifier =>
    workspace.resolveImport path specifier withPackages

/-- Read the files of a level. Those that cannot be read are left out. -/
def scanFiles (workspace : Workspace) (withPackages : Bool) : List Path → Inquiry (List FileScan)
  | [] => pure []
  | path :: rest => do
    let found := match ← Inquiry.attempt (.modules path) with
      | .ok module => [scanOf workspace withPackages path module]
      | .error _ => []
    return found ++ (← scanFiles workspace withPackages rest)

/-- Record where a specifier of the node leads. A file that has not been found yet is an edge only
if the next level is still allowed. -/
def follow (deeper : Bool) (found : State × Node) (target : Resolution) : State × Node :=
  let (state, node) := found
  match target with
  | .external specifier => ({ state with externals := state.externals ++ [specifier] }, node)
  | .internal path =>
    if node.dependencies.contains path then (state, node)
    else if state.discovered.contains path then
      (state, { node with dependencies := node.dependencies ++ [path] })
    else if deeper then
      ({ state with discovered := state.discovered ++ [path], next := state.next ++ [path] },
        { node with dependencies := node.dependencies ++ [path] })
    else (state, node)

/-- Add a file that was read. -/
def merge (deeper : Bool) (state : State) (scan : FileScan) : State :=
  let (state, node) := scan.targets.foldl (follow deeper) (state, scan.node)
  { state with nodes := node :: state.nodes }

/-- Read level after level, with `hops` levels after the current one. -/
def expand (workspace : Workspace) (withPackages : Bool) (deadline : Deadline) :
    (hops : Nat) → State → Inquiry State
  | hops, state => do
    if state.next.isEmpty then return state
    Inquiry.check deadline
    let scans ← scanFiles workspace withPackages state.next
    -- The files of the last level are read, but they discover no others.
    let state := scans.foldl (merge (0 < hops)) { state with next := [] }
    match hops with
    | 0 => return state
    | hops + 1 => expand workspace withPackages deadline hops state

/-- The graph of what has been found: edges lead only to nodes, and every node knows its dependents.
-/
def finish (state : State) : Graph :=
  -- A file that was discovered and cannot be read is no node.
  let known := state.nodes.map (·.path)
  let nodes := state.nodes.reverse.map fun node =>
    { node with dependencies := node.dependencies.filter (known.contains ·) }
  (Graph.ofNodes nodes state.externals).link

end GraphBuild

/-- The dependency graph of a request. -/
def Graph.build (workspace : Workspace) (query : GraphQuery) : Inquiry Graph := do
  let seeds ← Inquiry.ofExcept (workspace.eligible query.scope)
  let deadline : Deadline :=
    { operation := .dependencies, limit := query.timeout.or workspace.config.scanTimeout }
  let hops := query.maxDepth.getD workspace.config.maxDepth
  let state ← GraphBuild.expand workspace query.withPackages deadline hops
    { discovered := seeds, next := seeds }
  return GraphBuild.finish state

end CodeAtlas
