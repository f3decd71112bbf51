import CodeAtlas.Graph.Basic

/-!
# Reachable files

The files that a file reaches through imports, and those that reach it, nearest first. Among the
neighbours of a file the edge that was added last comes first.
-/

namespace CodeAtlas

/-- The members of a list that `known` does not hold, each once. -/
def fresh {α : Type} [DecidableEq α] (known : List α) : List α → List α
  | [] => []
  | a :: rest => if a ∈ known then fresh known rest else a :: fresh (a :: known) rest

/-- Visit a queue breadth first: every visited member puts its neighbours that are new at the end of
the queue. `fuel` bounds the number of visits. -/
def breadthFirst {α : Type} [DecidableEq α] (next : α → List α) :
    (fuel : Nat) → (known queue : List α) → List α
  | 0, _, _ => []
  | _ + 1, _, [] => []
  | fuel + 1, known, a :: queue =>
    let found := fresh known (next a)
    a :: breadthFirst next fuel (known ++ found) (queue ++ found)

namespace Graph

/-- The files that a file imports, as the graph spells them; the last edge first. -/
def successors (graph : Graph) (path : Path) : List Path :=
  match graph.node? path with
  | none => []
  | some node =>
    (node.dependencies.filterMap fun target => (graph.entry? target).map (·.1)).reverse

/-- The files that import a file, as the graph spells them; the last edge first. -/
def predecessors (graph : Graph) (path : Path) : List Path :=
  ((graph.importers path).filterMap fun source => (graph.entry? source).map (·.1)).reverse

/-- The files reached from a path along `next`, without the path itself. -/
def reached (graph : Graph) (next : Path → List Path) (path : Path) : List Path :=
  match graph.entry? path with
  | none => []
  | some (start, _) => (breadthFirst next graph.nodes.length [start] [start]).drop 1

/-- Every file that a file reaches through imports, nearest first. -/
def transitiveDependencies (graph : Graph) (path : Path) : List Path :=
  graph.reached graph.successors path

/-- Every file that reaches a file through imports, nearest first. -/
def transitiveDependents (graph : Graph) (path : Path) : List Path :=
  graph.reached graph.predecessors path

end Graph

end CodeAtlas
