import CodeAtlas.Proofs.Graph.Declared

/-!
# Graphs that stay inside

A graph lies in a set of paths if its nodes and edges do. Where the files of all levels and their
imports lie in the set, so does the graph that is made of them: read `finish_lies_in` first.
-/

namespace CodeAtlas

/-- A file lies in `within` with everything that it imports. -/
structure Node.LiesIn (within : Path → Prop) (node : Node) : Prop where
  path : within node.path
  dependencies : ∀ path ∈ node.dependencies, within path

/-- All paths of a graph lie in `within`. -/
structure Graph.LiesIn (within : Path → Prop) (graph : Graph) : Prop where
  paths : ∀ path ∈ graph.paths, within path
  nodes : ∀ entry ∈ graph.nodes, entry.2.LiesIn within
  dependents : ∀ entry ∈ graph.nodes, ∀ path ∈ entry.2.dependents, within path

variable {within : Path → Prop}

/-- What lies in `within` lies in whatever contains it. -/
theorem Graph.LiesIn.imp {wider : Path → Prop} {graph : Graph} (h : graph.LiesIn within)
    (himp : ∀ path, within path → wider path) : graph.LiesIn wider where
  paths path hpath := himp path (h.paths path hpath)
  nodes entry hentry := ⟨himp _ (h.nodes entry hentry).path,
    fun path hpath => himp path ((h.nodes entry hentry).dependencies path hpath)⟩
  dependents entry hentry path hpath := himp path (h.dependents entry hentry path hpath)

namespace Graph

/-- Every node after an insertion is the new one or was there before. -/
theorem mem_nodes_insert_node {node : Node} {entries : List (Path × Node)} {other : Node}
    (h : other ∈ (insertNode node entries).map (·.2)) :
    other = node ∨ other ∈ entries.map (·.2) := by
  induction entries with
  | nil => simpa [insertNode] using h
  | cons head rest ih =>
      rw [insertNode] at h
      split at h
      · simpa using h
      · simp only [List.map_cons, List.mem_cons] at h ⊢
        exact h.imp_right Or.inr
      · simp only [List.map_cons, List.mem_cons] at h ⊢
        rcases h with h | h
        · exact Or.inr (Or.inl h)
        · exact (ih h).imp_right Or.inr

/-- The paths and nodes of a graph are those of the nodes that it is made of. -/
theorem of_nodes_lie_in {nodes : List Node} (h : ∀ node ∈ nodes, node.LiesIn within)
    (externals : List String) :
    (∀ path ∈ (ofNodes nodes externals).paths, within path) ∧
      ∀ node ∈ (ofNodes nodes externals).nodes.map (·.2), node.LiesIn within := by
  refine List.foldlRecOn nodes _
    (motive := fun entries : List (Path × Node) => (∀ path ∈ entries.map (·.1), within path) ∧
      ∀ node ∈ entries.map (·.2), node.LiesIn within) ?_ ?_
  · simp
  · intro entries hentries node hnode
    constructor
    · intro path hpath
      rcases mem_paths_insert_node hpath with rfl | hpath
      · exact (h node hnode).path
      · exact hentries.1 path hpath
    · intro other hother
      rcases mem_nodes_insert_node hother with rfl | hother
      · exact h _ hnode
      · exact hentries.2 other hother

/-- The files that import a path are nodes. -/
theorem mem_nodes_of_importer {graph : Graph} {path source : Path}
    (h : source ∈ graph.importers path) : ∃ entry ∈ graph.nodes, entry.2.path = source := by
  obtain ⟨edge, hedge, rfl⟩ := List.mem_map.mp h
  obtain ⟨entry, hentry, hmem⟩ := List.mem_flatMap.mp (List.mem_filter.mp hedge).1
  obtain ⟨_, _, rfl⟩ := List.mem_map.mp hmem
  exact ⟨entry, hentry, rfl⟩

end Graph

namespace GraphBuild

/-- The files of a level lie in `within` if they and their targets do. -/
theorem Merges.nodes_lie_in {deeper : Bool} {start state : State} {scans : List FileScan}
    (h : Merges deeper start scans state) (hstart : ∀ node ∈ start.nodes, node.LiesIn within)
    (hscans : ∀ scan ∈ scans, within scan.node.path ∧
      ∀ path, .internal path ∈ scan.targets → within path) :
    ∀ node ∈ state.nodes, node.LiesIn within := by
  intro node hnode
  rw [h.nodes, List.mem_append, List.mem_reverse, List.mem_map] at hnode
  rcases hnode with ⟨scan, hscan, rfl⟩ | hnode
  · obtain ⟨hpath, htargets⟩ := hscans scan hscan
    exact ⟨hpath, fun path hedge => htargets path (mem_edges_to.mp hedge).1⟩
  · exact hstart node hnode

/-- The graph of what has been found lies where its files do. -/
theorem finish_lies_in {state : State} (h : ∀ node ∈ state.nodes, node.LiesIn within) :
    (finish state).LiesIn within := by
  have hknown : (∀ path ∈ (unlinked state).paths, within path) ∧
      ∀ node ∈ (unlinked state).nodes.map (·.2), node.LiesIn within := by
    refine Graph.of_nodes_lie_in (fun node hnode => ?_) state.externals
    obtain ⟨before, hbefore, rfl⟩ := List.mem_map.mp hnode
    have hlies := h before (List.mem_reverse.mp hbefore)
    exact ⟨hlies.path, fun path hpath => hlies.dependencies path (List.mem_filter.mp hpath).1⟩
  have hentries : ∀ entry ∈ (unlinked state).nodes, entry.2.LiesIn within :=
    fun entry hentry => hknown.2 entry.2 (List.mem_map_of_mem hentry)
  change (unlinked state).link.LiesIn within
  refine ⟨?_, ?_, ?_⟩
  · rw [Graph.paths_link]
    exact hknown.1
  · intro entry hentry
    obtain ⟨before, hbefore, rfl⟩ := Graph.mem_nodes_link.mp hentry
    exact ⟨(hentries before hbefore).path, (hentries before hbefore).dependencies⟩
  · intro entry hentry path hpath
    obtain ⟨before, hbefore, rfl⟩ := Graph.mem_nodes_link.mp hentry
    obtain ⟨source, hsource, rfl⟩ := Graph.mem_nodes_of_importer hpath
    exact (hentries source hsource).path

end GraphBuild

end CodeAtlas
