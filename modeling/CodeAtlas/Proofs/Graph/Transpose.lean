import CodeAtlas.Proofs.Graph.Declared
import Mathlib.Algebra.GroupWithZero.Nat

/-!
# Edges and their reverse

Read `Transposed` first: it says that the dependencies of a graph lead only to its nodes and that
the dependents of a node are exactly the nodes that depend on it. Whatever answers the questions of
a build, the graph that it gives is transposed (`build_transposed`).
-/

namespace CodeAtlas.Graph

/-- The nodes that depend on a path, in the order of paths. -/
def dependingOn (graph : Graph) (path : Path) : List Path :=
  (graph.nodes.filter fun entry => entry.2.dependencies.contains path).map (·.1)

/-- `Transposed graph` says that all edges lead to nodes, none twice, and that each node lists its
dependents. -/
structure Transposed (graph : Graph) : Prop where
  path_eq : ∀ entry ∈ graph.nodes, entry.2.path = entry.1
  dependencies_known : ∀ entry ∈ graph.nodes, ∀ path ∈ entry.2.dependencies, path ∈ graph.paths
  dependencies_nodup : ∀ entry ∈ graph.nodes, entry.2.dependencies.Nodup
  dependents_eq : ∀ entry ∈ graph.nodes, entry.2.dependents = graph.dependingOn entry.1

variable {graph : Graph}

/-- A path depends on another if its node has that dependency. -/
theorem mem_depending_on {source path : Path} :
    source ∈ graph.dependingOn path ↔
      ∃ node, (source, node) ∈ graph.nodes ∧ path ∈ node.dependencies := by
  simp [dependingOn]

/-- The nodes that depend on a path are in ascending order. -/
theorem depending_on_ascending (graph : Graph) (path : Path) :
    Path.Ascending (graph.dependingOn path) :=
  graph.nodes_ascending.sublist (List.filter_sublist.map _)

/-- The paths of a graph have no repeats. -/
theorem paths_nodup (graph : Graph) : graph.paths.Nodup := by
  refine graph.nodes_ascending.imp ?_
  rintro path _ hlt rfl
  simpa using Path.not_same_of_lt hlt

/-- The node of a path of the graph is the one that is there. -/
theorem node_eq_some_of_mem {entry : Path × Node} (h : entry ∈ graph.nodes) :
    graph.node? entry.1 = some entry.2 := by
  rw [node?, entry_eq_some_of_mem h]
  rfl

/-- Every edge of a transposed graph is recorded at both of its ends. -/
theorem Transposed.is_symmetric (h : graph.Transposed) : graph.isSymmetric = true := by
  refine List.all_eq_true.mpr fun entry hentry => ?_
  dsimp only
  rw [h.path_eq entry hentry, Bool.and_eq_true, List.all_eq_true, List.all_eq_true]
  constructor
  · intro path hpath
    obtain ⟨target, htarget, rfl⟩ := List.mem_map.mp (h.dependencies_known entry hentry path hpath)
    rw [node_eq_some_of_mem htarget, Option.any_some, h.dependents_eq target htarget]
    refine listed_iff.mpr ⟨entry.1, ?_, Path.same_refl _⟩
    exact mem_depending_on.mpr ⟨entry.2, hentry, hpath⟩
  · intro path hpath
    rw [h.dependents_eq entry hentry, mem_depending_on] at hpath
    obtain ⟨node, hnode, hdependency⟩ := hpath
    rw [node_eq_some_of_mem hnode, Option.any_some]
    exact listed_iff.mpr ⟨entry.1, hdependency, Path.same_refl _⟩

/-- Counting the pairs of a relation row by row or column by column gives the same number. -/
theorem sum_count_p_comm {α β : Type} (relation : α → β → Bool) (rows : List α) (columns : List β) :
    (columns.map fun column => rows.countP (relation · column)).sum =
      (rows.map fun row => columns.countP (relation row)).sum := by
  induction rows with
  | nil => simp
  | cons row rest ih =>
      have hrow : (columns.map fun column => (row :: rest).countP (relation · column)).sum =
          columns.countP (relation row) +
            (columns.map fun column => rest.countP (relation · column)).sum := by
        clear ih
        induction columns with
        | nil => rfl
        | cons column others ih =>
            simp only [List.map_cons, List.sum_cons, List.countP_cons] at ih ⊢
            omega
      rw [hrow, ih, List.map_cons, List.sum_cons]

/-- Each node is counted once for each of its dependencies. -/
theorem Transposed.count_dependencies (h : graph.Transposed) {entry : Path × Node}
    (hentry : entry ∈ graph.nodes) :
    graph.nodes.countP (fun target => entry.2.dependencies.contains target.1) =
      entry.2.dependencies.length := by
  have hcount : graph.nodes.countP (fun target => entry.2.dependencies.contains target.1) =
      (graph.paths.filter (entry.2.dependencies.contains ·)).length := by
    rw [← List.countP_eq_length_filter, paths, List.countP_map]
    rfl
  rw [hcount]
  refine List.Perm.length_eq ((List.perm_ext_iff_of_nodup (graph.paths_nodup.filter _)
    (h.dependencies_nodup entry hentry)).mpr fun path => ?_)
  simp only [List.mem_filter, List.contains_iff_mem]
  exact and_iff_right_of_imp (h.dependencies_known entry hentry path)

/-- The dependents of all nodes are as many as the edges. -/
theorem Transposed.sum_dependents (h : graph.Transposed) :
    (graph.nodes.map fun entry => entry.2.dependents.length).sum = graph.edgeCount := by
  have hdependents : graph.nodes.map (fun entry => entry.2.dependents.length) =
      graph.nodes.map fun target => graph.nodes.countP fun entry =>
        entry.2.dependencies.contains target.1 := by
    refine List.map_congr_left fun target htarget => ?_
    rw [h.dependents_eq target htarget, dependingOn, List.length_map,
      List.countP_eq_length_filter]
  have hdependencies : graph.nodes.map (fun entry => graph.nodes.countP fun target =>
        entry.2.dependencies.contains target.1) =
      graph.nodes.map fun entry => entry.2.dependencies.length :=
    List.map_congr_left fun _ => h.count_dependencies
  calc
    (graph.nodes.map fun entry => entry.2.dependents.length).sum
      = (graph.nodes.map fun target => graph.nodes.countP fun entry =>
          entry.2.dependencies.contains target.1).sum := by rw [hdependents]
    _ = (graph.nodes.map fun entry => graph.nodes.countP fun target =>
          entry.2.dependencies.contains target.1).sum :=
        sum_count_p_comm
          (fun entry target : Path × Node => entry.2.dependencies.contains target.1) _ _
    _ = (graph.nodes.map fun entry => entry.2.dependencies.length).sum := by rw [hdependencies]
    _ = graph.edgeCount := by simp [edgeCount, edges, List.length_flatMap]

/-- A described graph is transposed. -/
theorem transposed_of_declared {workspace : Workspace}
    {oracle : (question : Question) → Except Failure question.Answer} {withPackages : Bool}
    {maxDepth : Nat} {seeds : List Path}
    (h : GraphBuild.Declared workspace oracle withPackages maxDepth seeds graph) :
    graph.Transposed := by
  refine ⟨?_, ?_, ?_, ?_⟩ <;> intro entry hentry <;>
    obtain ⟨module, hmodule, hnode⟩ := h.node_eq entry hentry
  · rw [hnode]
    rfl
  · intro path hpath
    rw [hnode] at hpath
    exact List.contains_iff_mem.mp (List.mem_filter.mp hpath).2
  · rw [hnode]
    exact (GraphBuild.nodup_erase_dups _).filter _
  · rw [hnode]
    rfl

/-- A build that succeeds gives a transposed graph. -/
theorem build_transposed {workspace : Workspace}
    {oracle : (question : Question) → Except Failure question.Answer} {query : GraphQuery}
    (h : (Graph.build workspace query).eval oracle = .ok graph) : graph.Transposed := by
  obtain ⟨_, _, hdeclared⟩ := GraphBuild.exists_declared_of_build h
  exact transposed_of_declared hdeclared

/-- Whatever answers the questions of a build that succeeds, its graph is closed and transposed:
every entry stands under the path of its node, every dependency is a node and is listed once, the
dependents of a node are the nodes that depend on it in ascending order, and so every edge is
recorded at both ends and counted once on either side. -/
theorem build_closed_and_transposed (workspace : Workspace)
    (oracle : (question : Question) → Except Failure question.Answer) (query : GraphQuery)
    (graph : Graph) (h : (Graph.build workspace query).eval oracle = .ok graph) :
    (∀ entry ∈ graph.nodes, entry.1 = entry.2.path) ∧
    (∀ entry ∈ graph.nodes, entry.2.dependencies.Nodup ∧
      ∀ path ∈ entry.2.dependencies, path ∈ graph.paths) ∧
    (∀ entry ∈ graph.nodes, Path.Ascending entry.2.dependents ∧ entry.2.dependents.Nodup ∧
      ∀ source, source ∈ entry.2.dependents ↔
        ∃ node, (source, node) ∈ graph.nodes ∧ entry.1 ∈ node.dependencies) ∧
    graph.isSymmetric = true ∧
    (graph.nodes.map fun entry => entry.2.dependents.length).sum = graph.edgeCount := by
  have htransposed := build_transposed h
  refine ⟨fun entry hentry => (htransposed.path_eq entry hentry).symm, ?_, ?_,
    htransposed.is_symmetric, htransposed.sum_dependents⟩
  · intro entry hentry
    exact ⟨htransposed.dependencies_nodup entry hentry, htransposed.dependencies_known entry hentry⟩
  · intro entry hentry
    rw [htransposed.dependents_eq entry hentry]
    refine ⟨graph.depending_on_ascending entry.1, ?_, fun _ => mem_depending_on⟩
    exact graph.paths_nodup.sublist (List.filter_sublist.map _)

/-- The graph of two files is transposed. -/
theorem build_transposed_two_files :
    ∃ graph, (Graph.build GraphBuild.twoFiles {}).eval GraphBuild.twoFiles.answer = .ok graph ∧
      graph.isSymmetric = true ∧
      (graph.nodes.map fun entry => entry.2.dependents.length).sum = graph.edgeCount := by
  obtain ⟨graph, hgraph, _⟩ := GraphBuild.build_two_files
  refine ⟨graph, hgraph, ?_⟩
  exact (build_closed_and_transposed GraphBuild.twoFiles _ {} graph hgraph).2.2.2

end CodeAtlas.Graph
