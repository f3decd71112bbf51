import CodeAtlas.Graph.Basic

/-!
# The most imported files
-/

namespace CodeAtlas.Graph

/-- Files with more dependents come first, and of two with equally many the one with the smaller
path. -/
def ranksBefore (left right : Path × Nat) : Bool :=
  right.2 < left.2 || (left.2 = right.2 && left.1.le right.1)

/-- The files by their number of dependents, at most `limit` of them. -/
def mostReferenced (graph : Graph) (limit : Nat) : List (Path × Nat) :=
  ((graph.nodes.map fun (_, node) => (node.path, node.dependents.length)).mergeSort
    ranksBefore).take limit

end CodeAtlas.Graph
