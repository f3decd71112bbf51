import CodeAtlas.Graph.Cycle
import CodeAtlas.Graph.Ranking
import CodeAtlas.Graph.Traversal
import CodeAtlas.Inquiry.Cache
import CodeAtlas.Query.Hint
import CodeAtlas.Query.Unused
import CodeAtlas.Search.Basic
import CodeAtlas.Symbol.Outline

/-!
# The engine

An engine answers requests about a workspace. Between requests it keeps a cache of what it read and
the dependency graph it built last. `Engine.handle` is the whole of its behaviour: a request gives
an answer or a failure, and the engine afterwards.
-/

namespace CodeAtlas

/-- An engine. -/
structure Engine where
  workspace : Workspace
  cache : Cache := {}
  /-- The graph built last, with the key of the request it was built for. -/
  graph : Option (GraphQuery × Graph) := none

/-- The direct edges of a file. -/
structure EdgeCounts where
  file : String
  dependencies : Nat
  dependents : Nat
  deriving DecidableEq, Repr, Inhabited

/-- A request. -/
inductive Request where
  | search (query : SearchQuery)
  | outline (path : Path)
  | context (path : Path) (line : Nat) (size : Option Nat)
  | references (query : ReferenceQuery)
  | definition (position : Position)
  | implementations (position : Position)
  | derivedClasses (position : Position)
  | typeHint (position : Position)
  | dependencyGraph (query : GraphQuery)
  | dependencies (path : Path)
  | dependents (path : Path)
  | edgeCounts (path : Path)
  | cycles
  | mostReferenced (limit : Nat)
  | unusedExports (query : GraphQuery)
  | directDependencies (path : Path)
  | ask (question : Question)
  | clear
  | invalidate (path : Path)

/-- What answers a request. -/
abbrev Request.Answer : Request → Type
  | .search _ => SearchResult
  | .outline _ => List Outline
  | .context .. => Option Context
  | .references _ => List Reference
  | .definition _ => Option Symbol
  | .implementations _ => List Symbol
  | .derivedClasses _ => List Symbol
  | .typeHint _ => Option TypeHint
  | .dependencyGraph _ => Graph
  | .dependencies _ => List Path
  | .dependents _ => List Path
  | .edgeCounts _ => Option EdgeCounts
  | .cycles => List (List Path)
  | .mostReferenced _ => List (Path × Nat)
  | .unusedExports _ => List UnusedExport
  | .directDependencies _ => List Path
  | .ask question => question.Answer
  | .clear => Unit
  | .invalidate _ => Unit

namespace Engine

/-- An engine that has not answered anything yet. -/
def fresh (workspace : Workspace) : Engine :=
  { workspace }

/-- The engine of a directory with its own configuration. A directory that is not there is named as
it is shown. -/
def ofDirectory (storage : Path → Storage) (directory shown : Path) (setting : Option String) :
    Except Failure Engine := do
  let config ← (storage directory).loadConfig directory setting
  let root ← ((storage directory).realPath directory).mapError (.unread shown.text)
  pure (fresh { root, storage := storage root, config })

/-- The answer to an inquiry, from the cache where possible. -/
def inquire {α : Type} (engine : Engine) (inquiry : Inquiry α) : Except Failure α × Engine :=
  let (result, cache) := inquiry.run engine.workspace engine.cache
  (result, { engine with cache })

/-- Answer with a path inside the root, or fail with the path. -/
def atPath {α : Type} (engine : Engine) (path : Path)
    (next : Path → Except Failure α × Engine) : Except Failure α × Engine :=
  match engine.workspace.resolve path with
  | .ok path => next path
  | .error failure => (.error failure, engine)

/-- The dependency graph of a request: the one built last if it has the same key, else a new one,
which takes its place. -/
def dependencyGraph (engine : Engine) (query : GraphQuery) : Except Failure Graph × Engine :=
  let build : Except Failure Graph × Engine :=
    match engine.inquire (Graph.build engine.workspace query) with
    | (.ok graph, engine) => (.ok graph, { engine with graph := some (query.key, graph) })
    -- A build that fails leaves the graph built last in its place.
    | (.error failure, engine) => (.error failure, engine)
  match engine.graph with
  | some (key, graph) => if key = query.key then (.ok graph, engine) else build
  | none => build

/-- The graph built last, or else that of a request without conditions. -/
def currentGraph (engine : Engine) : Except Failure Graph × Engine :=
  match engine.graph with
  | some (_, graph) => (.ok graph, engine)
  | none => engine.dependencyGraph {}

/-- Answer from the current graph. -/
def withGraph {α : Type} (engine : Engine) (answer : Graph → α) : Except Failure α × Engine :=
  match engine.currentGraph with
  | (.ok graph, engine) => (.ok (answer graph), engine)
  | (.error failure, engine) => (.error failure, engine)

/-- The unused exports of a request, in the graph of that request. -/
def unusedExports (engine : Engine) (query : GraphQuery) :
    Except Failure (List UnusedExport) × Engine :=
  match engine.dependencyGraph query with
  | (.ok graph, engine) => engine.inquire (UnusedExport.find engine.workspace graph query)
  | (.error failure, engine) => (.error failure, engine)

/-- Forget everything. -/
def clear (engine : Engine) : Engine :=
  { engine with cache := {}, graph := none }

/-- Forget the text and the symbols of a file, and the graph. -/
def forget (engine : Engine) (path : Path) : Engine :=
  { engine with cache := engine.cache.invalidate path, graph := none }

/-- Answer a request. -/
def handle (engine : Engine) (request : Request) : Except Failure request.Answer × Engine :=
  let workspace := engine.workspace
  match request with
  | .search query => engine.inquire (Search.find workspace query)
  | .outline path =>
    engine.atPath path fun path =>
      engine.inquire (do return Outline.ofSymbols (← Inquiry.get (.symbols path)))
  | .context path line size =>
    engine.atPath path fun path =>
      engine.inquire (Context.around workspace path line (size.getD workspace.config.contextLines))
  | .references query => engine.inquire (Reference.find workspace query)
  | .definition position => engine.inquire (Navigation.definition workspace position)
  | .implementations position => engine.inquire (Navigation.implementations workspace position)
  | .derivedClasses position => engine.inquire (Navigation.derivedClasses workspace position)
  | .typeHint position => engine.inquire (Hint.ofPosition workspace position)
  | .dependencyGraph query => engine.dependencyGraph query
  | .dependencies path =>
    engine.atPath path fun path => engine.withGraph (·.transitiveDependencies path)
  | .dependents path =>
    engine.atPath path fun path => engine.withGraph (·.transitiveDependents path)
  | .edgeCounts path =>
    engine.atPath path fun path => engine.withGraph fun graph =>
      (graph.node? path).map fun node =>
        { file := node.relative, dependencies := node.dependencies.length
          dependents := node.dependents.length }
  | .cycles => engine.withGraph (·.cycles)
  | .mostReferenced limit => engine.withGraph (·.mostReferenced limit)
  | .unusedExports query => engine.unusedExports query
  | .directDependencies path =>
    engine.inquire (do Inquiry.ofExcept (← Navigation.directDependencies workspace path))
  | .ask question => engine.inquire (Inquiry.get question)
  | .clear => (.ok (), engine.clear)
  | .invalidate path => engine.atPath path fun path => (.ok (), engine.forget path)

end Engine

end CodeAtlas
