import CodeAtlas.Module.Basic
import CodeAtlas.Path.Order

/-!
# The dependency graph

A graph maps the paths of files to nodes, in the order of paths, and names every place at most once.
`Graph.link` fills in, for every node, the files that import it; a graph built from forward edges
alone becomes symmetric by it.
-/

namespace CodeAtlas

/-- A file of the graph. -/
structure Node where
  path : Path
  /-- The path relative to the workspace. -/
  relative : String
  imports : List Import := []
  exports : List Export := []
  /-- The files that this file imports, in the order of their first import. -/
  dependencies : List Path := []
  /-- The files that import this file. -/
  dependents : List Path := []
  deriving Inhabited

/-- A dependency graph. -/
structure Graph where
  /-- The nodes by path, in ascending order. -/
  nodes : List (Path × Node) := []
  /-- The specifiers that lead outside the workspace, in ascending order. -/
  externals : List String := []
  nodes_ascending : Path.Ascending (nodes.map (·.1)) := by exact List.Pairwise.nil
  externals_ascending : externals.Pairwise (· < ·) := by exact List.Pairwise.nil

instance : Inhabited Graph :=
  ⟨{}⟩

/-- Numbers that describe a graph. -/
structure GraphSummary where
  nodeCount : Nat
  edgeCount : Nat
  externals : List String
  deriving DecidableEq, Repr, Inhabited

namespace Graph

/-- Insert an entry into a list of nodes in path order. The node of a path that is there already is
replaced, and the path keeps its spelling. -/
def insertNode (node : Node) : List (Path × Node) → List (Path × Node)
  | [] => [(node.path, node)]
  | (path, other) :: rest =>
    match Path.compare node.path path with
    | .lt => (node.path, node) :: (path, other) :: rest
    | .eq => (path, node) :: rest
    | .gt => (path, other) :: insertNode node rest

/-- Insert a string into an ascending list, unless it is there. -/
def insertExternal (text : String) : List String → List String
  | [] => [text]
  | other :: rest =>
    if text < other then text :: other :: rest
    else if text = other then other :: rest
    else other :: insertExternal text rest

/-- Every path after an insertion is that of the new node or was there before. -/
theorem mem_paths_insert_node {node : Node} {entries : List (Path × Node)} {path : Path}
    (h : path ∈ (insertNode node entries).map (·.1)) :
    path = node.path ∨ path ∈ entries.map (·.1) := by
  induction entries with
  | nil => simpa [insertNode] using h
  | cons head rest ih =>
      rw [insertNode] at h
      split at h
      · simpa using h
      · exact Or.inr (by simpa using h)
      · rcases List.mem_cons.mp h with rfl | h
        · exact Or.inr (by simp)
        · exact (ih h).imp_right (List.mem_cons_of_mem _)

/-- An insertion keeps the order of paths. -/
theorem insert_node_ascending (node : Node) {entries : List (Path × Node)}
    (h : Path.Ascending (entries.map (·.1))) :
    Path.Ascending ((insertNode node entries).map (·.1)) := by
  induction entries with
  | nil => exact List.pairwise_singleton _ _
  | cons head rest ih =>
      obtain ⟨path, other⟩ := head
      obtain ⟨hhead, hrest⟩ := List.pairwise_cons.mp h
      rw [insertNode]
      split
      · next hlt =>
          refine List.pairwise_cons.mpr ⟨?_, h⟩
          intro later hlater
          rcases List.mem_cons.mp hlater with rfl | hlater
          · exact hlt
          · exact Std.TransCmp.lt_trans hlt (hhead later hlater)
      · exact h
      · next hgt =>
          refine List.pairwise_cons.mpr ⟨?_, ih hrest⟩
          intro later hlater
          rcases mem_paths_insert_node hlater with rfl | hlater
          · exact Std.OrientedCmp.lt_of_gt hgt
          · exact hhead later hlater

/-- An insertion adds one string and loses none. -/
theorem mem_insert_external {text other : String} {known : List String} :
    other ∈ insertExternal text known ↔ other = text ∨ other ∈ known := by
  induction known with
  | nil => simp [insertExternal]
  | cons first rest ih =>
      rw [insertExternal]
      split
      · simp
      · split
        · next heq => simp [heq]
        · simp only [List.mem_cons, ih]
          exact or_left_comm

/-- An insertion keeps the order of strings. -/
theorem insert_external_ascending (text : String) {known : List String}
    (h : known.Pairwise (· < ·)) : (insertExternal text known).Pairwise (· < ·) := by
  induction known with
  | nil => exact List.pairwise_singleton _ _
  | cons first rest ih =>
      obtain ⟨hfirst, hrest⟩ := List.pairwise_cons.mp h
      rw [insertExternal]
      split
      · next hlt =>
          refine List.pairwise_cons.mpr ⟨?_, h⟩
          intro later hlater
          rcases List.mem_cons.mp hlater with rfl | hlater
          · exact hlt
          · exact String.lt_trans hlt (hfirst later hlater)
      · next hnot =>
          split
          · exact h
          · next hne =>
              refine List.pairwise_cons.mpr ⟨?_, ih hrest⟩
              intro later hlater
              rcases mem_insert_external.mp hlater with rfl | hlater
              · rcases String.le_total later first with hle | hle
                · exact False.elim (hne (String.le_antisymm hle (String.not_lt.mp hnot)))
                · exact String.not_le.mp fun hle' => hne (String.le_antisymm hle' hle)
              · exact hfirst later hlater

/-- The graph of nodes, later ones replacing earlier ones of the same path, and of external
specifiers. -/
def ofNodes (nodes : List Node) (externals : List String) : Graph where
  nodes := nodes.foldl (fun entries node => insertNode node entries) []
  externals := externals.foldl (fun known text => insertExternal text known) []
  nodes_ascending := by
    refine List.foldlRecOn nodes _
      (motive := fun entries : List (Path × Node) => Path.Ascending (entries.map (·.1))) ?_ ?_
    · exact List.Pairwise.nil
    · exact fun _ h node _ => insert_node_ascending node h
  externals_ascending := by
    refine List.foldlRecOn externals _
      (motive := fun known : List String => known.Pairwise (· < ·)) ?_ ?_
    · exact List.Pairwise.nil
    · exact fun _ h text _ => insert_external_ascending text h

/-- The entry of a path. -/
def entry? (graph : Graph) (path : Path) : Option (Path × Node) :=
  graph.nodes.find? (·.1.same path)

/-- The node of a path. -/
def node? (graph : Graph) (path : Path) : Option Node :=
  (graph.entry? path).map (·.2)

/-- In a list that names every place at most once, a place leads to the entry that is there. -/
theorem find_eq_some_of_mem {entries : List (Path × Node)} {entry : Path × Node}
    (hascending : Path.Ascending (entries.map (·.1))) (h : entry ∈ entries) :
    entries.find? (·.1.same entry.1) = some entry := by
  induction entries with
  | nil => contradiction
  | cons first rest ih =>
      obtain ⟨hfirst, hrest⟩ := List.pairwise_cons.mp hascending
      rcases List.mem_cons.mp h with rfl | h
      · simp
      · rw [List.find?_cons, Path.not_same_of_lt (hfirst entry.1 (List.mem_map_of_mem h))]
        exact ih hrest h

/-- The entry of a path of the graph is the one that is there. -/
theorem entry_eq_some_of_mem {graph : Graph} {entry : Path × Node} (h : entry ∈ graph.nodes) :
    graph.entry? entry.1 = some entry :=
  find_eq_some_of_mem graph.nodes_ascending h

/-- The paths of the graph in ascending order. -/
def paths (graph : Graph) : List Path :=
  graph.nodes.map (·.1)

/-- Every edge as importing and imported file: the nodes in order, and each one's dependencies in
order. -/
def edges (graph : Graph) : List (Path × Path) :=
  graph.nodes.flatMap fun (_, node) => node.dependencies.map (node.path, ·)

/-- The files that import a path, one for each edge. -/
def importers (graph : Graph) (path : Path) : List Path :=
  (graph.edges.filter (·.2.same path)).map (·.1)

/-- The graph with the dependents of every node. -/
def link (graph : Graph) : Graph :=
  { graph with
    nodes := graph.nodes.map fun (path, node) =>
      (path, { node with dependents := graph.importers path })
    nodes_ascending := by simpa [Function.comp_def] using graph.nodes_ascending }

/-- The number of nodes. -/
def nodeCount (graph : Graph) : Nat :=
  graph.nodes.length

/-- The number of edges. -/
def edgeCount (graph : Graph) : Nat :=
  graph.edges.length

/-- Whether a path is among others, whatever its spelling. -/
def listed (paths : List Path) (path : Path) : Bool :=
  paths.any (·.same path)

/-- A path is listed when one of the paths names its place. -/
theorem listed_iff {paths : List Path} {path : Path} :
    listed paths path = true ↔ ∃ other ∈ paths, other.same path = true := by
  simp [listed]

@[simp] theorem listed_nil (path : Path) : listed [] path = false :=
  rfl

@[simp] theorem listed_cons (first : Path) (paths : List Path) (path : Path) :
    listed (first :: paths) path = (first.same path || listed paths path) :=
  rfl

@[simp] theorem listed_append (left right : List Path) (path : Path) :
    listed (left ++ right) path = (listed left path || listed right path) := by
  simp [listed]

/-- Whether a path is listed depends only on the place it names. -/
theorem listed_congr {paths : List Path} {left right : Path} (h : left.same right = true) :
    listed paths left = listed paths right := by
  simp only [listed, Path.same, Path.same_iff.mp h]

/-- Whether every edge is recorded at both of its ends. -/
def isSymmetric (graph : Graph) : Bool :=
  graph.nodes.all fun (_, node) =>
    (node.dependencies.all fun path =>
      (graph.node? path).any fun target => listed target.dependents node.path)
    && node.dependents.all fun path =>
      (graph.node? path).any fun source => listed source.dependencies node.path

/-- The numbers of a graph. -/
def summary (graph : Graph) : GraphSummary :=
  { nodeCount := graph.nodeCount, edgeCount := graph.edgeCount, externals := graph.externals }

end Graph

end CodeAtlas
