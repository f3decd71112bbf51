import CodeAtlas.Proofs.Graph.Levels
import CodeAtlas.Query.Navigation
import CodeAtlas.Workspace.Memory
import Mathlib.Data.List.Sort

/-!
# The graph that a request describes

Read `Declared` first: it says without levels, and without an order of the listed files, what the
nodes, the edges and the external specifiers of a graph are. There is at most one such graph
(`Declared.unique`), and the built one is it (`build_declared`).
-/

namespace CodeAtlas

/-- Two ascending lists of the same paths are equal. -/
theorem Path.Ascending.eq_of_mem_iff {left right : List Path} (hleft : Path.Ascending left)
    (hright : Path.Ascending right) (h : ∀ path, path ∈ left ↔ path ∈ right) : left = right := by
  have : Std.Irrefl fun left right : Path => Path.compare left right = .lt :=
    ⟨fun path hlt => by simp [Std.ReflCmp.compare_self] at hlt⟩
  have : Std.Antisymm fun left right : Path => Path.compare left right = .lt :=
    ⟨fun left right hlt hgt => False.elim (Std.OrientedCmp.not_lt_of_lt hlt hgt)⟩
  exact List.Pairwise.eq_of_mem_iff hleft hright h

namespace Graph

/-- A node of a new place is one more entry. -/
theorem mem_insert_node {node : Node} {entries : List (Path × Node)} {entry : Path × Node}
    (h : ∀ other ∈ entries, node.path.same other.1 = false) :
    entry ∈ insertNode node entries ↔ entry = (node.path, node) ∨ entry ∈ entries := by
  induction entries with
  | nil => simp [insertNode]
  | cons head rest ih =>
      rw [insertNode]
      split
      · simp
      · next heq =>
          rw [Path.compare_eq_iff, h head (by simp)] at heq
          contradiction
      · simp only [List.mem_cons, ih fun other hother => h other (List.mem_cons_of_mem _ hother)]
        exact or_left_comm

/-- The entries of a graph of nodes at different places are these nodes. -/
theorem mem_of_nodes {nodes : List Node} {externals : List String} {entry : Path × Node}
    (h : nodes.Pairwise fun left right => left.path.same right.path = false) :
    entry ∈ (ofNodes nodes externals).nodes ↔ ∃ node ∈ nodes, entry = (node.path, node) := by
  change entry ∈ nodes.foldl (fun entries node => insertNode node entries) [] ↔ _
  induction nodes using List.reverseRecOn generalizing entry with
  | nil => simp
  | append_singleton nodes node ih =>
      obtain ⟨hnodes, _, hlast⟩ := List.pairwise_append.mp h
      rw [List.foldl_append, List.foldl_cons, List.foldl_nil, mem_insert_node, ih hnodes]
      · simp only [List.mem_append, List.mem_singleton, or_and_right, exists_or, exists_eq_left]
        exact or_comm
      · intro other hother
        obtain ⟨earlier, hearlier, rfl⟩ := (ih hnodes).mp hother
        rw [Path.same_comm]
        exact hlast earlier hearlier node (by simp)

/-- The external specifiers of a graph are those that it is made of. -/
theorem mem_foldl_insert_external {externals : List String} {specifier : String} :
    specifier ∈ externals.foldl (fun known text => insertExternal text known) [] ↔
      specifier ∈ externals := by
  induction externals using List.reverseRecOn with
  | nil => simp
  | append_singleton externals last ih =>
      rw [List.foldl_append, List.foldl_cons, List.foldl_nil, mem_insert_external, ih]
      simp [or_comm]

/-- `Exact graph` says that every entry stands under the path of its node, that all paths are
spelled plainly, and that no file is listed twice as a dependency. -/
structure Exact (graph : Graph) : Prop where
  path_eq : ∀ entry ∈ graph.nodes, entry.2.path = entry.1
  paths_plain : ∀ path ∈ graph.paths, path.IsPlain
  dependencies_plain : ∀ entry ∈ graph.nodes, ∀ path ∈ entry.2.dependencies, path.IsPlain
  dependencies_nodup : ∀ entry ∈ graph.nodes, entry.2.dependencies.Nodup

/-- Among the edges of one file, at most one leads to a path. -/
theorem filter_edges {source path : Path} {dependencies : List Path} (hpath : path.IsPlain)
    (hplain : ∀ other ∈ dependencies, other.IsPlain) (hnodup : dependencies.Nodup) :
    ((dependencies.map (source, ·)).filter (·.2.same path)).map (·.1) =
      if dependencies.contains path then [source] else [] := by
  -- Among plain paths, naming the same place is being equal.
  have hsame : dependencies.filter (·.same path) = dependencies.filter (· == path) := by
    refine List.filter_congr fun other hother => ?_
    rw [Bool.eq_iff_iff, (hplain other hother).same_iff hpath, beq_iff_eq]
  rw [List.filter_map, List.map_map]
  change (dependencies.filter (·.same path)).map (fun _ => source) = _
  rw [hsame, List.filter_beq, List.map_replicate, List.Nodup.count hnodup]
  split <;> simp_all

/-- The files that import a path are the nodes with this dependency, in the order of paths. -/
theorem Exact.importers_eq {graph : Graph} (h : graph.Exact) {path : Path} (hpath : path.IsPlain) :
    graph.importers path =
      (graph.nodes.filter fun entry => entry.2.dependencies.contains path).map (·.1) := by
  have hedges : ∀ entry ∈ graph.nodes,
      ((entry.2.dependencies.map (entry.2.path, ·)).filter (·.2.same path)).map (·.1) =
        if entry.2.dependencies.contains path then [entry.1] else [] := by
    intro entry hentry
    rw [h.path_eq entry hentry]
    exact filter_edges hpath (h.dependencies_plain entry hentry) (h.dependencies_nodup entry hentry)
  rw [importers, edges, List.filter_flatMap, List.map_flatMap]
  revert hedges
  induction graph.nodes with
  | nil => simp
  | cons entry rest ih =>
      intro hedges
      obtain ⟨hentry, hrest⟩ := List.forall_mem_cons.mp hedges
      rw [List.flatMap_cons, ih hrest, hentry, List.filter_cons]
      split <;> simp_all

/-- Linking keeps the paths of a graph. -/
@[simp] theorem paths_link (graph : Graph) : graph.link.paths = graph.paths := by
  simp [paths, link]

/-- The entries of a linked graph are the entries before with their importers. -/
theorem mem_nodes_link {graph : Graph} {entry : Path × Node} :
    entry ∈ graph.link.nodes ↔ ∃ before ∈ graph.nodes,
      entry = (before.1, { before.2 with dependents := graph.importers before.1 }) := by
  simp [link, eq_comm]

/-- The nodes with a dependency stay the same when the graph is linked. -/
theorem filter_nodes_link (graph : Graph) (path : Path) :
    (graph.link.nodes.filter fun entry => entry.2.dependencies.contains path).map (·.1) =
      (graph.nodes.filter fun entry => entry.2.dependencies.contains path).map (·.1) := by
  rw [link, List.filter_map, List.map_map]
  rfl

end Graph

namespace GraphBuild

variable (workspace : Workspace) (oracle : (question : Question) → Except Failure question.Answer)
  (withPackages : Bool) (maxDepth : Nat) (seeds : List Path)

/-- The node of a file in a graph of the given paths, without its dependents: it depends on those of
its direct imports that are among the paths. -/
def nodeOf (paths : List Path) (path : Path) (module : ModuleSyntax) : Node where
  path := path
  relative := workspace.relative path
  imports := module.imports
  exports := module.exports
  dependencies := (workspace.internalTargets path module.specifiers withPackages).filter
    (paths.contains ·)

/-- The graph that is described by the selected files and the allowed number of hops. -/
structure Declared (graph : Graph) : Prop where
  /-- The nodes are the files within the hops that can be read. -/
  mem_paths : ∀ path, path ∈ graph.paths ↔
    Within workspace oracle withPackages seeds maxDepth path ∧
      ∃ module, oracle (.modules path) = .ok module
  /-- Every node says what its file says, and its dependents are the nodes that depend on it. -/
  node_eq : ∀ entry ∈ graph.nodes, ∃ module, oracle (.modules entry.1) = .ok module ∧
    entry.2 =
      { nodeOf workspace withPackages graph.paths entry.1 module with
        dependents := (graph.nodes.filter fun other =>
          other.2.dependencies.contains entry.1).map (·.1) }
  /-- The external specifiers are those of the nodes. -/
  mem_externals : ∀ specifier, specifier ∈ graph.externals ↔
    ∃ path ∈ graph.paths, ∃ module, oracle (.modules path) = .ok module ∧
      ∃ written ∈ module.specifiers,
        workspace.resolveImport path written withPackages = .external specifier

variable {workspace oracle withPackages maxDepth seeds}

/-- Lists with the same keys agree on whatever the keys determine. -/
theorem map_eq_of_keys_eq {α : Type} {left right : List (Path × Node)} {f : Path × Node → α}
    (hkeys : left.map (·.1) = right.map (·.1))
    (h : ∀ a ∈ left, ∀ b ∈ right, a.1 = b.1 → f a = f b) : left.map f = right.map f := by
  have hlength : left.length = right.length := by simpa using congrArg List.length hkeys
  refine List.ext_getElem (by simpa using hlength) ?_
  intro i hi hi'
  rw [List.length_map] at hi hi'
  rw [List.getElem_map, List.getElem_map]
  refine h _ (List.getElem_mem hi) _ (List.getElem_mem hi') ?_
  simpa [hi, hi'] using congrArg (·[i]?) hkeys

/-- At most one graph is described. -/
theorem Declared.unique {graph other : Graph}
    (h : Declared workspace oracle withPackages maxDepth seeds graph)
    (hother : Declared workspace oracle withPackages maxDepth seeds other) : graph = other := by
  have hpaths : graph.paths = other.paths := by
    refine Path.Ascending.eq_of_mem_iff graph.nodes_ascending other.nodes_ascending fun path => ?_
    exact (h.mem_paths path).trans (hother.mem_paths path).symm
  have hexternals : graph.externals = other.externals := by
    refine List.Pairwise.eq_of_mem_iff graph.externals_ascending other.externals_ascending ?_
    intro specifier
    rw [h.mem_externals, hother.mem_externals, hpaths]
  -- The dependencies are determined by the paths, and the dependents by the dependencies.
  have hrows : graph.nodes.map (fun entry => (entry.1, entry.2.dependencies)) =
      other.nodes.map (fun entry => (entry.1, entry.2.dependencies)) := by
    refine map_eq_of_keys_eq hpaths ?_
    rintro ⟨path, node⟩ hentry ⟨_, node'⟩ hentry' rfl
    obtain ⟨module, hmodule, hnode⟩ := h.node_eq _ hentry
    obtain ⟨module', hmodule', hnode'⟩ := hother.node_eq _ hentry'
    obtain rfl := Except.ok.inj (hmodule.symm.trans hmodule')
    simp_all [nodeOf]
  have hdependents : ∀ path,
      (graph.nodes.filter fun entry => entry.2.dependencies.contains path).map (·.1) =
        (other.nodes.filter fun entry => entry.2.dependencies.contains path).map (·.1) := by
    intro path
    have := congrArg (fun rows => (rows.filter (·.2.contains path)).map (·.1)) hrows
    simpa [List.filter_map, Function.comp_def] using this
  have hnodes : graph.nodes.map id = other.nodes.map id := by
    refine map_eq_of_keys_eq hpaths ?_
    rintro ⟨path, node⟩ hentry ⟨_, node'⟩ hentry' rfl
    obtain ⟨module, hmodule, hnode⟩ := h.node_eq _ hentry
    obtain ⟨module', hmodule', hnode'⟩ := hother.node_eq _ hentry'
    obtain rfl := Except.ok.inj (hmodule.symm.trans hmodule')
    simp_all
  rw [List.map_id, List.map_id] at hnodes
  cases graph
  cases other
  simp_all

/-- The workspace holds every file within some hops of files that it holds. -/
theorem Within.holds (hseeds : ∀ path ∈ seeds, workspace.Holds path) {hops : Nat} {path : Path}
    (h : Within workspace oracle withPackages seeds hops path) : workspace.Holds path := by
  cases h with
  | seed hseed => exact hseeds path hseed
  | hop _ _ htarget => exact Workspace.internal_targets_holds htarget

/-- The paths of what has been found are those of the discovered files that can be read. -/
theorem mem_paths_of_explored {state : State}
    (h : Explored workspace oracle withPackages seeds maxDepth state) {path : Path} :
    path ∈ state.nodes.map (·.path) ↔
      path ∈ state.discovered ∧ ∃ module, oracle (.modules path) = .ok module := by
  rw [h.nodes, List.map_reverse, List.mem_reverse, List.map_map, List.mem_map]
  constructor
  · rintro ⟨scan, hscan, rfl⟩
    obtain ⟨path, hpath, hscan⟩ := mem_scans_of.mp hscan
    obtain ⟨module, hmodule, rfl⟩ := scan_eq_some.mp hscan
    exact ⟨hpath, module, hmodule⟩
  · rintro ⟨hpath, module, hmodule⟩
    refine ⟨scanOf workspace withPackages path module, ?_, rfl⟩
    exact mem_scans_of.mpr ⟨path, hpath, scan_eq_some.mpr ⟨module, hmodule, rfl⟩⟩

/-- Dropping the edges to what is no node leaves the node that is described. -/
theorem filter_linked {state : State}
    (h : Explored workspace oracle withPackages seeds maxDepth state) (path : Path)
    (module : ModuleSyntax) :
    { linked state.discovered (scanOf workspace withPackages path module) with
      dependencies := (edgesTo state.discovered
        (scanOf workspace withPackages path module).targets).filter
          ((state.nodes.map (·.path)).contains ·) } =
      nodeOf workspace withPackages (state.nodes.map (·.path)) path module := by
  have hedges : ∀ target, ((state.nodes.map (·.path)).contains target &&
      state.discovered.contains target) = (state.nodes.map (·.path)).contains target := by
    intro target
    rw [Bool.and_eq_left_iff_imp, List.contains_iff_mem, List.contains_iff_mem,
      mem_paths_of_explored h]
    exact And.left
  rw [edgesTo, List.filter_filter, erase_dups_internals_scan_of]
  simp only [linked, nodeOf, scanOf, hedges]

/-- Different files that were read are at different places. -/
theorem scans_of_distinct {paths : List Path} (hplain : ∀ path ∈ paths, path.IsPlain)
    (hnodup : paths.Nodup) :
    (scansOf workspace oracle withPackages paths).Pairwise fun left right =>
      left.node.path.same right.node.path = false := by
  refine List.pairwise_filterMap.mpr (hnodup.imp_of_mem ?_)
  intro left right hleft hright hne scan hscan other hother
  obtain ⟨_, _, rfl⟩ := scan_eq_some.mp hscan
  obtain ⟨_, _, rfl⟩ := scan_eq_some.mp hother
  rw [← Bool.not_eq_true]
  exact fun hsame => hne (((hplain left hleft).same_iff (hplain right hright)).mp hsame)

/-- The graph of what has been found, before the dependents are filled in. -/
def unlinked (state : State) : Graph :=
  let known := state.nodes.map (·.path)
  let nodes := state.nodes.reverse.map fun node =>
    { node with dependencies := node.dependencies.filter (known.contains ·) }
  Graph.ofNodes nodes state.externals

section Finish

variable {state : State} (hseeds : ∀ path ∈ seeds, workspace.Holds path)
  (h : Explored workspace oracle withPackages seeds maxDepth state)

include hseeds h

/-- The entries of the graph, before the dependents are filled in. -/
theorem mem_nodes_unlinked {entry : Path × Node} :
    entry ∈ (unlinked state).nodes ↔ ∃ path ∈ state.discovered, ∃ module,
      oracle (.modules path) = .ok module ∧
        entry = (path, nodeOf workspace withPackages (state.nodes.map (·.path)) path module) := by
  have hplain : ∀ path ∈ state.discovered, path.IsPlain := fun path hpath =>
    (((h.mem_discovered path).mp hpath).holds hseeds).1
  have hreverse : state.nodes.reverse =
      (scansOf workspace oracle withPackages state.discovered).map (linked state.discovered) := by
    rw [h.nodes, List.reverse_reverse]
  rw [unlinked, hreverse, List.map_map, Graph.mem_of_nodes]
  · simp only [List.mem_map, mem_scans_of, scan_eq_some]
    constructor
    · rintro ⟨_, ⟨_, ⟨path, hpath, module, hmodule, rfl⟩, rfl⟩, rfl⟩
      exact ⟨path, hpath, module, hmodule, by rw [← filter_linked h path module]; rfl⟩
    · rintro ⟨path, hpath, module, hmodule, rfl⟩
      refine ⟨_, ⟨_, ⟨path, hpath, module, hmodule, rfl⟩, rfl⟩, ?_⟩
      rw [← filter_linked h path module]
      rfl
  · refine List.pairwise_map.mpr ((scans_of_distinct hplain h.nodup).imp ?_)
    exact fun hdistinct => hdistinct

/-- The paths of the graph are those of what has been found. -/
theorem mem_paths_unlinked {path : Path} :
    path ∈ (unlinked state).paths ↔ path ∈ state.nodes.map (·.path) := by
  rw [mem_paths_of_explored h, Graph.paths, List.mem_map]
  constructor
  · rintro ⟨entry, hentry, rfl⟩
    obtain ⟨path, hpath, module, hmodule, rfl⟩ := (mem_nodes_unlinked hseeds h).mp hentry
    exact ⟨hpath, module, hmodule⟩
  · rintro ⟨hpath, module, hmodule⟩
    exact ⟨_, (mem_nodes_unlinked hseeds h).mpr ⟨path, hpath, module, hmodule, rfl⟩, rfl⟩

/-- The graph is exact before the dependents are filled in. -/
theorem unlinked_exact : (unlinked state).Exact where
  path_eq entry hentry := by
    obtain ⟨path, _, module, _, rfl⟩ := (mem_nodes_unlinked hseeds h).mp hentry
    rfl
  paths_plain path hpath := by
    have hmem := (mem_paths_of_explored h).mp ((mem_paths_unlinked hseeds h).mp hpath)
    exact (((h.mem_discovered path).mp hmem.1).holds hseeds).1
  dependencies_plain entry hentry target htarget := by
    obtain ⟨path, _, module, _, rfl⟩ := (mem_nodes_unlinked hseeds h).mp hentry
    exact (Workspace.internal_targets_holds (List.mem_filter.mp htarget).1).1
  dependencies_nodup entry hentry := by
    obtain ⟨path, _, module, _, rfl⟩ := (mem_nodes_unlinked hseeds h).mp hentry
    exact (nodup_erase_dups _).filter _

/-- What has been found when all levels are done makes the described graph. -/
theorem finish_declared :
    Declared workspace oracle withPackages maxDepth seeds (finish state) := by
  have hexact := unlinked_exact hseeds h
  change Declared workspace oracle withPackages maxDepth seeds (unlinked state).link
  refine ⟨?_, ?_, ?_⟩
  · intro path
    rw [Graph.paths_link, mem_paths_unlinked hseeds h, mem_paths_of_explored h, h.mem_discovered]
  · intro entry hentry
    obtain ⟨before, hbefore, rfl⟩ := Graph.mem_nodes_link.mp hentry
    obtain ⟨path, hpath, module, hmodule, rfl⟩ := (mem_nodes_unlinked hseeds h).mp hbefore
    have hpaths : (unlinked state).link.paths.contains = (state.nodes.map (·.path)).contains := by
      funext target
      rw [Bool.eq_iff_iff, List.contains_iff_mem, List.contains_iff_mem, Graph.paths_link,
        mem_paths_unlinked hseeds h]
    have hplain := (((h.mem_discovered path).mp hpath).holds hseeds).1
    refine ⟨module, hmodule, ?_⟩
    rw [Graph.filter_nodes_link, ← hexact.importers_eq hplain]
    simp only [nodeOf, hpaths]
  · intro specifier
    have hmem : specifier ∈ (unlinked state).link.externals ↔ specifier ∈ state.externals :=
      Graph.mem_foldl_insert_external
    rw [hmem, h.externals]
    simp only [Graph.paths_link, mem_paths_unlinked hseeds h, mem_paths_of_explored h, mem_scans_of,
      scan_eq_some]
    constructor
    · rintro ⟨_, ⟨path, hpath, module, hmodule, rfl⟩, htarget⟩
      obtain ⟨written, hwritten, heq⟩ := List.mem_map.mp htarget
      exact ⟨path, ⟨hpath, module, hmodule⟩, module, hmodule, written, hwritten, heq⟩
    · rintro ⟨path, ⟨hpath, _⟩, module, hmodule, written, hwritten, heq⟩
      exact ⟨_, ⟨path, hpath, module, hmodule, rfl⟩, List.mem_map.mpr ⟨written, hwritten, heq⟩⟩

end Finish

/-- No file is selected twice. -/
theorem eligible_nodup {scope : Scope} {files : List Path}
    (h : workspace.eligible scope = .ok files) : files.Nodup := by
  unfold Workspace.eligible at h
  cases hfilter : workspace.filter scope with
  | error failure =>
      rw [hfilter] at h
      contradiction
  | ok filter =>
      rw [hfilter] at h
      exact Except.ok.inj h ▸ nodup_erase_dups _

/-- The time budget of a build. -/
def deadlineOf (workspace : Workspace) (query : GraphQuery) : Deadline where
  operation := .dependencies
  limit := query.timeout.or workspace.config.scanTimeout

/-- A budget that is used up is reported for the operation it belongs to. -/
theorem check_deadline_of (query : GraphQuery) :
    (deadlineOf workspace query).check = .ok () ∨
      (deadlineOf workspace query).check = .error (.timeout .dependencies) := by
  unfold Deadline.check
  split
  · exact Or.inr rfl
  · exact Or.inl rfl

section Build

variable {query : GraphQuery} (h : workspace.eligible query.scope = .ok seeds)

include h

/-- A build reads level after level, beginning with the selected files. -/
theorem eval_build :
    (Graph.build workspace query).eval oracle =
      ((expand workspace query.withPackages (deadlineOf workspace query)
        (query.maxDepth.getD workspace.config.maxDepth)
        { discovered := seeds, next := seeds }).eval oracle).map finish := by
  rw [Graph.build, Inquiry.eval_bind, Inquiry.eval_of_except, h]
  refine (Inquiry.eval_bind oracle _ _).trans ?_
  rfl

/-- Where files are selected and there is no time, a build fails for that. -/
theorem build_of_expired (hne : seeds ≠ [])
    (hcheck : (deadlineOf workspace query).check = .error (.timeout .dependencies)) :
    (Graph.build workspace query).eval oracle = .error (.timeout .dependencies) := by
  rw [eval_build h, eval_expand_of_expired hcheck hne]
  rfl

/-- Where there is time, or nothing to do, a build gives the described graph. -/
theorem build_declared (hready : (deadlineOf workspace query).check = .ok () ∨ seeds = []) :
    ∃ graph, (Graph.build workspace query).eval oracle = .ok graph ∧
      Declared workspace oracle query.withPackages
        (query.maxDepth.getD workspace.config.maxDepth) seeds graph := by
  have hheld : ∀ path ∈ seeds, workspace.Holds path := fun _ => Workspace.eligible_holds h
  have hstart : LevelInv workspace oracle query.withPackages seeds 0 []
      { discovered := seeds, next := seeds } := level_inv_start (eligible_nodup h)
  rw [eval_build h]
  rcases hready with hcheck | hempty
  · obtain ⟨state, hstate, hexplored⟩ := expand_explored hcheck hstart
    rw [Nat.zero_add] at hexplored
    rw [hstate]
    exact ⟨_, rfl, finish_declared hheld hexplored⟩
  · rw [eval_expand_of_empty hempty]
    exact ⟨_, rfl, finish_declared hheld (hstart.of_empty hempty (Nat.zero_le _))⟩

/-- A build that does not run out of time gives the described graph. -/
theorem build_declared_of_ne_timeout
    (hne : (Graph.build workspace query).eval oracle ≠ .error (.timeout .dependencies)) :
    ∃ graph, (Graph.build workspace query).eval oracle = .ok graph ∧
      Declared workspace oracle query.withPackages
        (query.maxDepth.getD workspace.config.maxDepth) seeds graph := by
  refine build_declared h ?_
  refine (check_deadline_of query).imp_right fun hcheck => ?_
  by_contra hseeds
  exact hne (build_of_expired h hseeds hcheck)

end Build

/-- The workspace with its files listed in another way. -/
def relisted (workspace : Workspace) (listing : List Path) : Workspace :=
  { workspace with storage := { workspace.storage with listing } }

/-- Questions about files are answered without the listing. -/
theorem answer_relisted (workspace : Workspace) (listing : List Path) :
    (relisted workspace listing).answer = workspace.answer := by
  funext question
  cases question <;> rfl

/-- In another order the same files are selected. -/
theorem eligible_relisted {listing : List Path} (hperm : listing.Perm workspace.storage.listing)
    {scope : Scope} (h : workspace.eligible scope = .ok seeds) :
    ∃ others, (relisted workspace listing).eligible scope = .ok others ∧
      ∀ path, path ∈ seeds ↔ path ∈ others := by
  cases hfilter : workspace.filter scope with
  | error failure =>
      rw [Workspace.eligible, hfilter] at h
      contradiction
  | ok filter =>
      have hrelisted : (relisted workspace listing).filter scope = .ok filter := hfilter
      cases hothers : (relisted workspace listing).eligible scope with
      | error failure =>
          rw [Workspace.eligible, hrelisted] at hothers
          contradiction
      | ok others =>
          refine ⟨others, rfl, fun path => ?_⟩
          rw [Workspace.mem_eligible h, Workspace.mem_eligible hothers, hfilter, hrelisted]
          refine exists_congr fun _ => and_congr_right fun _ => exists_congr fun listed => ?_
          exact and_congr_left fun _ => hperm.mem_iff.symm

/-- Of the listing, only the selected files decide which files are within some hops. -/
theorem Within.relisted (listing : List Path) {others : List Path}
    (hseeds : ∀ path, path ∈ seeds ↔ path ∈ others) {hops : Nat} {path : Path}
    (h : Within workspace oracle withPackages seeds hops path) :
    Within (relisted workspace listing) oracle withPackages others hops path := by
  induction h with
  | seed hseed => exact .seed ((hseeds _).mp hseed)
  | hop _ hmodule htarget ih => exact .hop ih hmodule htarget

/-- Of the listing, only the selected files decide which graph is described. -/
theorem Declared.relisted (listing : List Path) {others : List Path}
    (hseeds : ∀ path, path ∈ seeds ↔ path ∈ others) {graph : Graph}
    (h : Declared workspace oracle withPackages maxDepth seeds graph) :
    Declared (relisted workspace listing) oracle withPackages maxDepth others graph where
  mem_paths path := by
    rw [h.mem_paths]
    refine and_congr_left fun _ => ⟨Within.relisted listing hseeds, ?_⟩
    exact Within.relisted workspace.storage.listing fun path => (hseeds path).symm
  node_eq := h.node_eq
  mem_externals := h.mem_externals

/-- Files cannot be selected only if the filter cannot be read. -/
theorem eligible_error_iff (workspace : Workspace) {scope : Scope} {failure : Failure} :
    workspace.eligible scope = .error failure ↔ workspace.filter scope = .error failure := by
  unfold Workspace.eligible
  cases workspace.filter scope with
  | error other => simp [Bind.bind, Except.bind]
  | ok filter => exact iff_of_false (fun h => nomatch h) (fun h => nomatch h)

/-- Where files cannot be selected, a build fails for that. -/
theorem build_of_error {query : GraphQuery} {failure : Failure}
    (h : workspace.eligible query.scope = .error failure) :
    (Graph.build workspace query).eval oracle = .error failure := by
  rw [Graph.build, Inquiry.eval_bind, Inquiry.eval_of_except, h]
  rfl

/-- The order of the listing does not change what a build gives. -/
theorem build_relisted {listing : List Path} (hperm : listing.Perm workspace.storage.listing)
    (query : GraphQuery) :
    (Graph.build (relisted workspace listing) query).eval oracle =
      (Graph.build workspace query).eval oracle := by
  cases h : workspace.eligible query.scope with
  | error failure =>
      have hfilter : (relisted workspace listing).filter query.scope = .error failure :=
        (eligible_error_iff workspace).mp h
      rw [build_of_error h, build_of_error ((eligible_error_iff _).mpr hfilter)]
  | ok seeds =>
      obtain ⟨others, hothers, hseeds⟩ := eligible_relisted hperm h
      have hempty : others = [] ↔ seeds = [] := by
        simp only [List.eq_nil_iff_forall_not_mem, hseeds]
      -- Both builds give the one described graph, or both run out of time.
      by_cases hready : (deadlineOf workspace query).check = .ok () ∨ seeds = []
      · obtain ⟨graph, hgraph, hdeclared⟩ := build_declared h hready
        obtain ⟨other, hother, hdeclared'⟩ := build_declared hothers (hready.imp_right hempty.mpr)
        rw [hgraph, hother, hdeclared'.unique (hdeclared.relisted listing hseeds)]
      · obtain ⟨hcheck, hne⟩ := not_or.mp hready
        have hexpired := (check_deadline_of query).resolve_left hcheck
        rw [build_of_expired h hne hexpired,
          build_of_expired hothers (fun hnone => hne (hempty.mp hnone)) hexpired]

/-- A build that succeeds gives a described graph. -/
theorem exists_declared_of_build {query : GraphQuery} {graph : Graph}
    (h : (Graph.build workspace query).eval oracle = .ok graph) :
    ∃ seeds, workspace.eligible query.scope = .ok seeds ∧
      Declared workspace oracle query.withPackages
        (query.maxDepth.getD workspace.config.maxDepth) seeds graph := by
  cases hseeds : workspace.eligible query.scope with
  | error failure =>
      rw [build_of_error hseeds] at h
      contradiction
  | ok seeds =>
      obtain ⟨other, hother, hdeclared⟩ := build_declared_of_ne_timeout hseeds (by rw [h]; nofun)
      exact ⟨seeds, rfl, Except.ok.inj (hother.symm.trans h) ▸ hdeclared⟩

/-- The workspace holds the nodes of a graph that was built. -/
theorem node_holds_of_build {query : GraphQuery} {graph : Graph}
    (h : (Graph.build workspace query).eval oracle = .ok graph) {entry : Path × Node}
    (hentry : entry ∈ graph.nodes) : workspace.Holds entry.2.path := by
  obtain ⟨seeds, hseeds, hdeclared⟩ := exists_declared_of_build h
  obtain ⟨module, _, hnode⟩ := hdeclared.node_eq entry hentry
  obtain ⟨hwithin, _⟩ := (hdeclared.mem_paths entry.1).mp (List.mem_map_of_mem hentry)
  rw [hnode]
  exact hwithin.holds fun _ => Workspace.eligible_holds hseeds

/-- Requests that differ in their time budgets only get the same graph, if they get one. -/
theorem build_of_key_eq {query other : GraphQuery} (hkey : query.key = other.key) {graph : Graph}
    (hgraph : (Graph.build workspace query).eval oracle = .ok graph)
    (hne : (Graph.build workspace other).eval oracle ≠ .error (.timeout .dependencies)) :
    (Graph.build workspace other).eval oracle = .ok graph := by
  obtain ⟨hscope, hpackages, hdepth⟩ : query.scope = other.scope ∧
      query.withPackages = other.withPackages ∧ query.maxDepth = other.maxDepth := by
    simpa [GraphQuery.key] using hkey
  obtain ⟨seeds, hseeds, hdeclared⟩ := exists_declared_of_build hgraph
  obtain ⟨built, hbuilt, hdeclared'⟩ := build_declared_of_ne_timeout (hscope ▸ hseeds) hne
  rw [← hpackages, ← hdepth] at hdeclared'
  rw [hbuilt, hdeclared'.unique hdeclared]

/-- The direct imports of a file that can be read. -/
theorem eval_direct_dependencies (path : Path) :
    (Navigation.directDependencies workspace path).eval oracle =
      .ok ((oracle (.modules path)).map fun module =>
        workspace.internalTargets path module.specifiers false) :=
  rfl

/-- A build that does not run out of time gives exactly the described graph: its nodes are the files
within the allowed hops that can be read, its edges are the direct imports among them, and its
external specifiers are theirs. It fails only if the files cannot be selected. The order in which
the files are listed plays no part. -/
theorem build_exact_and_order_free (workspace : Workspace) (query : GraphQuery)
    (h : (Graph.build workspace query).eval workspace.answer ≠ .error (.timeout .dependencies)) :
    (∀ failure, workspace.eligible query.scope = .error failure →
      (Graph.build workspace query).eval workspace.answer = .error failure) ∧
    (∀ seeds, workspace.eligible query.scope = .ok seeds →
      ∃ graph, (Graph.build workspace query).eval workspace.answer = .ok graph ∧
        Declared workspace workspace.answer query.withPackages
          (query.maxDepth.getD workspace.config.maxDepth) seeds graph ∧
        (query.withPackages = false → ∀ entry ∈ graph.nodes, ∃ direct,
          (Navigation.directDependencies workspace entry.1).eval workspace.answer =
            .ok (.ok direct) ∧
          entry.2.dependencies = direct.filter (graph.paths.contains ·))) ∧
    (∀ listing : List Path, listing.Perm workspace.storage.listing →
      (Graph.build (relisted workspace listing) query).eval (relisted workspace listing).answer =
        (Graph.build workspace query).eval workspace.answer) := by
  refine ⟨?_, ?_, ?_⟩
  · exact fun failure => build_of_error
  · intro seeds hseeds
    obtain ⟨graph, hgraph, hdeclared⟩ := build_declared_of_ne_timeout hseeds h
    refine ⟨graph, hgraph, hdeclared, ?_⟩
    intro hinternal entry hentry
    obtain ⟨module, hmodule, hnode⟩ := hdeclared.node_eq entry hentry
    refine ⟨workspace.internalTargets entry.1 module.specifiers false, ?_, ?_⟩
    · rw [eval_direct_dependencies, hmodule]
      rfl
    · rw [hnode, hinternal]
      rfl
  · intro listing hperm
    rw [answer_relisted]
    exact build_relisted hperm query

/-- A workspace of a file and of one that it imports. -/
def twoFiles : Workspace where
  root := ⟨"/ws"⟩
  storage := MemoryFiles.storage
    ⟨[(⟨"/ws/a.ts"⟩, some "import './b'".toList), (⟨"/ws/b.ts"⟩, some [])]⟩ false

/-- Both files are selected, and their graph is built. -/
theorem build_two_files :
    ∃ graph, (Graph.build twoFiles {}).eval twoFiles.answer = .ok graph ∧
      twoFiles.eligible {} = .ok [⟨"/ws/a.ts"⟩, ⟨"/ws/b.ts"⟩] := by
  have hseeds : twoFiles.eligible {} = .ok [⟨"/ws/a.ts"⟩, ⟨"/ws/b.ts"⟩] := rfl
  have hcheck : (deadlineOf twoFiles {}).check = .ok () := rfl
  obtain ⟨graph, hgraph, _⟩ := build_declared hseeds (Or.inl hcheck)
  exact ⟨graph, hgraph, hseeds⟩

/-- The graph of the two files is the described one, in whichever order they are listed. -/
theorem build_exact_two_files :
    ∃ graph, Declared twoFiles twoFiles.answer false 10 [⟨"/ws/a.ts"⟩, ⟨"/ws/b.ts"⟩] graph ∧
      (Graph.build (relisted twoFiles [⟨"/ws/b.ts"⟩, ⟨"/ws/a.ts"⟩]) {}).eval
        (relisted twoFiles [⟨"/ws/b.ts"⟩, ⟨"/ws/a.ts"⟩]).answer = .ok graph := by
  obtain ⟨graph, hgraph, hseeds⟩ := build_two_files
  have hexact := build_exact_and_order_free twoFiles {} (by rw [hgraph]; nofun)
  obtain ⟨other, hother, hdeclared, _⟩ := hexact.2.1 _ hseeds
  exact ⟨other, hdeclared, (hexact.2.2 _ (List.Perm.swap _ _ [])).trans hother⟩

end GraphBuild

end CodeAtlas
