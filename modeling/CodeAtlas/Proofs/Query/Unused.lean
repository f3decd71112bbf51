import CodeAtlas.Proofs.Engine.LastGraph
import CodeAtlas.Proofs.Graph.Transpose

/-!
# Which exports are reported as unused

Read `IsUnused` first: it says of a file, in terms of the edges of the graph and not of recorded
dependents, that its exports are reported. Of a graph that is described by the files, the reported
nodes are these files in ascending order (`reported_nodes_of_declared`). A request looks at the graph
that the files give for it, however the engine came by it (`Holding.dependency_graph_eq`), so
`unused_exports_exact` holds after every run. The exports of a file come in the order in which its
parser lists them, which need not be that of their lines (`constant_listed_before_class`).
-/

namespace CodeAtlas

/-- The symbols of a file in the order in which they are listed, none if they cannot be read. -/
def Workspace.symbolsOf (workspace : Workspace) (path : Path) : List Symbol :=
  (workspace.answer (.symbols path)).toOption.getD []

/-- The exports of a file at its top level, each as an unused one. -/
def Workspace.topLevelExports (workspace : Workspace) (path : Path) : List UnusedExport :=
  ((workspace.symbolsOf path).filter (·.isTopLevelExport)).map
    ({ symbol := ·, file := workspace.relative path })

/-- A file of a graph that no file of the graph imports, not even itself, that the filter selects and
that is no entry point. -/
structure IsUnused (workspace : Workspace) (graph : Graph) (filter : GlobFilter) (path : Path) :
    Prop where
  mem_paths : path ∈ graph.paths
  not_imported : ∀ entry ∈ graph.nodes, path ∉ entry.2.dependencies
  selected : filter.accepts (workspace.relative path).toList = true
  not_entry : ∀ name, UnusedExport.baseName? path = some name →
    name ∉ workspace.config.entryPoints

namespace UnusedExport

variable {workspace : Workspace} {graph : Graph} {filter : GlobFilter} {withPackages : Bool}
  {maxDepth : Nat} {seeds : List Path}

/-- The nodes whose exports are reported. -/
def reportedNodes (workspace : Workspace) (graph : Graph) (filter : GlobFilter) : List Node :=
  (graph.nodes.map (·.2)).filter (isReported workspace.config filter)

/-- A node of a described graph is reported exactly if its file is unused. -/
theorem is_reported_iff
    (h : GraphBuild.Declared workspace workspace.answer withPackages maxDepth seeds graph)
    {entry : Path × Node} (hentry : entry ∈ graph.nodes) :
    isReported workspace.config filter entry.2 = true ↔
      IsUnused workspace graph filter entry.1 := by
  have hpath := (Graph.transposed_of_declared h).path_eq entry hentry
  have hdependents := (Graph.transposed_of_declared h).dependents_eq entry hentry
  have hrelative : entry.2.relative = workspace.relative entry.1 := by
    obtain ⟨module, -, hnode⟩ := h.node_eq entry hentry
    rw [hnode]
    rfl
  have hempty : entry.2.dependents.isEmpty = true ↔
      ∀ other ∈ graph.nodes, entry.1 ∉ other.2.dependencies := by
    rw [hdependents, List.isEmpty_iff, List.eq_nil_iff_forall_not_mem]
    refine ⟨fun hnone other hother hmem => ?_, fun hnone source hsource => ?_⟩
    · exact hnone other.1 (Graph.mem_depending_on.mpr ⟨other.2, hother, hmem⟩)
    · obtain ⟨node, hnode, hmem⟩ := Graph.mem_depending_on.mp hsource
      exact hnone (source, node) hnode hmem
  have hname : isEntryPoint workspace.config entry.1 = false ↔
      ∀ name, baseName? entry.1 = some name → name ∉ workspace.config.entryPoints := by
    unfold isEntryPoint
    cases baseName? entry.1 <;> simp
  rw [isReported, hrelative, hpath, Bool.and_eq_true, Bool.and_eq_true, hempty, Bool.not_eq_true',
    hname]
  constructor
  · rintro ⟨⟨hnot, hselected⟩, hentryPoint⟩
    exact ⟨List.mem_map_of_mem hentry, hnot, hselected, hentryPoint⟩
  · rintro ⟨-, hnot, hselected, hentryPoint⟩
    exact ⟨⟨hnot, hselected⟩, hentryPoint⟩

/-- The reported nodes of a described graph are those of the unused files, in ascending order. -/
theorem reported_nodes_of_declared
    (h : GraphBuild.Declared workspace workspace.answer withPackages maxDepth seeds graph)
    (filter : GlobFilter) :
    Path.Ascending ((reportedNodes workspace graph filter).map (·.path)) ∧
      (∀ path, path ∈ (reportedNodes workspace graph filter).map (·.path) ↔
        IsUnused workspace graph filter path) ∧
      ∀ node ∈ reportedNodes workspace graph filter,
        node.relative = workspace.relative node.path := by
  have hpaths := (Graph.transposed_of_declared h).path_eq
  have heq : (reportedNodes workspace graph filter).map (·.path) =
      (graph.nodes.filter fun entry => isReported workspace.config filter entry.2).map (·.1) := by
    rw [reportedNodes, List.filter_map, List.map_map]
    refine List.map_congr_left fun entry hentry => ?_
    exact hpaths entry (List.mem_filter.mp hentry).1
  refine ⟨?_, fun path => ?_, fun node hnode => ?_⟩
  · rw [heq]
    exact graph.nodes_ascending.sublist (List.filter_sublist.map _)
  · rw [heq, List.mem_map]
    constructor
    · rintro ⟨entry, hentry, rfl⟩
      obtain ⟨hentry, hreported⟩ := List.mem_filter.mp hentry
      exact (is_reported_iff h hentry).mp hreported
    · intro hunused
      obtain ⟨entry, hentry, rfl⟩ := List.mem_map.mp hunused.mem_paths
      exact ⟨entry, List.mem_filter.mpr ⟨hentry, (is_reported_iff h hentry).mpr hunused⟩, rfl⟩
  · obtain ⟨entry, hentry, rfl⟩ := List.mem_map.mp (List.mem_filter.mp hnode).1
    obtain ⟨module, -, heq⟩ := h.node_eq entry hentry
    rw [heq]
    rfl

/-- The exports of nodes are those of their files, if there is time to look at them. -/
theorem eval_of_nodes_eq {deadline : Deadline} {nodes : List Node}
    (hnodes : ∀ node ∈ nodes, node.relative = workspace.relative node.path)
    (hready : deadline.check = .ok () ∨ nodes = []) :
    (ofNodes deadline nodes).eval workspace.answer =
      .ok ((nodes.map (·.path)).flatMap workspace.topLevelExports) := by
  rcases hready with hcheck | rfl
  · induction nodes with
    | nil => rfl
    | cons node rest ih =>
        obtain ⟨hnode, hrest⟩ := List.forall_mem_cons.mp hnodes
        have hsymbols : (Inquiry.attempt (.symbols node.path)).eval workspace.answer =
            .ok (workspace.answer (.symbols node.path)) := rfl
        simp only [ofNodes, Inquiry.eval_bind, Inquiry.eval_check, hcheck, hsymbols, ih hrest,
          Inquiry.eval_pure, List.map_cons, List.flatMap_cons]
        rw [Workspace.topLevelExports, Workspace.symbolsOf, hnode]
        cases workspace.answer (.symbols node.path) <;> rfl
  · rfl

/-- Looking for the unused exports of a described graph runs out of time, or lists those of the
unused files in ascending order. -/
theorem eval_find_of_declared {query : GraphQuery}
    (h : GraphBuild.Declared workspace workspace.answer withPackages maxDepth seeds graph)
    (hfilter : workspace.filter query.scope = .ok filter) :
    (find workspace graph query).eval workspace.answer = .error (.timeout .unusedExports) ∨
      ∃ files, Path.Ascending files ∧ (∀ path, path ∈ files ↔ IsUnused workspace graph filter path) ∧
        (find workspace graph query).eval workspace.answer =
          .ok (files.flatMap workspace.topLevelExports) := by
  obtain ⟨hascending, hunused, hrelative⟩ := reported_nodes_of_declared h filter
  obtain ⟨deadline, hdeadline, hfind⟩ : ∃ deadline : Deadline, deadline.operation = .unusedExports ∧
      (find workspace graph query).eval workspace.answer =
        (ofNodes deadline (reportedNodes workspace graph filter)).eval workspace.answer := by
    refine ⟨{ operation := .unusedExports
              limit := query.timeout.or workspace.config.scanTimeout }, rfl, ?_⟩
    simp only [find, Inquiry.eval_bind, Inquiry.eval_of_except, hfilter]
    rfl
  rw [hfind]
  cases hnodes : reportedNodes workspace graph filter with
  | nil =>
      refine Or.inr ⟨_, hascending, hunused, ?_⟩
      rw [hnodes]
      rfl
  | cons node rest =>
      by_cases hexpired : deadline.isExpired = true
      · left
        have hcheck : deadline.check = .error (.timeout .unusedExports) :=
          hdeadline ▸ if_pos hexpired
        simp only [ofNodes, Inquiry.eval_bind, Inquiry.eval_check, hcheck]
        rfl
      · refine Or.inr ⟨_, hascending, hunused, ?_⟩
        rw [← hnodes]
        exact eval_of_nodes_eq hrelative (Or.inl (if_neg hexpired))

end UnusedExport

namespace Engine

variable {engine : Engine} {workspace : Workspace} {last : Option GraphQuery}

/-- After a run, a request for a graph gives the graph that the files give for it, or fails as the
files make it fail. -/
theorem Holding.dependency_graph_eq (h : engine.Holding workspace last) (query : GraphQuery) :
    (∃ graph, (engine.dependencyGraph query).1 = .ok graph ∧
      freshGraph workspace query.key = .ok graph) ∨
    ∃ failure, (engine.dependencyGraph query).1 = .error failure ∧
      (Graph.build workspace query).eval workspace.answer = .error failure := by
  have hanswer := (inquire_remembers h.remembers (Graph.build engine.workspace query)).1
  rw [h.workspace_eq] at hanswer
  rcases engine.dependency_graph_cases query with ⟨graph, hslot, heq⟩ |
    ⟨failure, later, hbuilt, heq⟩ | ⟨graph, later, hbuilt, heq⟩
  · exact Or.inl ⟨graph, by rw [heq], h.graph_eq _ _ hslot⟩
  · rw [h.workspace_eq] at hbuilt
    rw [hbuilt] at hanswer
    exact Or.inr ⟨failure, by rw [heq], hanswer.symm⟩
  · rw [h.workspace_eq] at hbuilt
    rw [hbuilt] at hanswer
    exact Or.inl ⟨graph, by rw [heq], fresh_graph_of_build hanswer.symm⟩

/-- The graph that the files give for a request is described by them, whatever the time budgets. -/
theorem declared_of_fresh_graph {query : GraphQuery} {graph : Graph}
    (h : freshGraph workspace query.key = .ok graph) :
    ∃ seeds, workspace.eligible query.scope = .ok seeds ∧
      GraphBuild.Declared workspace workspace.answer query.withPackages
        (query.maxDepth.getD workspace.config.maxDepth) seeds graph := by
  have hbuilt := (handle_graph_fresh workspace.unhurried query.key).symm.trans h
  obtain ⟨seeds, hseeds, hdeclared⟩ := GraphBuild.exists_declared_of_build hbuilt
  exact ⟨seeds, hseeds, hdeclared.of_unhurried⟩

/-- In a run, unused exports are looked for in the graph of the request. -/
theorem Holding.unused_exports_eq (h : engine.Holding workspace last) {query : GraphQuery}
    {graph : Graph} (hgraph : (engine.dependencyGraph query).1 = .ok graph) :
    (engine.unusedExports query).1 =
      (UnusedExport.find workspace graph query).eval workspace.answer := by
  have hlater : (engine.dependencyGraph query).2.Remembers :=
    handle_remembers h.remembers (.dependencyGraph query)
  have hworkspace := engine.dependency_graph_workspace query
  rcases engine.unused_exports_cases query with ⟨failure, later, heq, -⟩ |
    ⟨found, later, heq, hunused⟩
  · rw [heq] at hgraph
    contradiction
  · rw [heq] at hgraph hlater hworkspace
    obtain rfl := Except.ok.inj hgraph
    dsimp only at hlater hworkspace
    rw [hunused, (inquire_remembers hlater _).1, hworkspace, h.workspace_eq]

/-- Where there is no graph for it, a request for unused exports fails as the one for the graph. -/
theorem unused_exports_of_error {query : GraphQuery} {failure : Failure}
    (h : (engine.dependencyGraph query).1 = .error failure) :
    (engine.unusedExports query).1 = .error failure := by
  rcases engine.unused_exports_cases query with ⟨other, later, hgraph, heq⟩ |
    ⟨graph, later, hgraph, -⟩
  · rw [hgraph] at h
    obtain rfl := Except.error.inj h
    rw [heq]
  · rw [hgraph] at h
    contradiction

/-- Where files can be selected, only the time budget makes a build fail. -/
theorem build_error_of_filter {oracle : (question : Question) → Except Failure question.Answer}
    {query : GraphQuery} {filter : GlobFilter} {failure : Failure}
    (hfilter : workspace.filter query.scope = .ok filter)
    (h : (Graph.build workspace query).eval oracle = .error failure) :
    failure = .timeout .dependencies := by
  by_contra hne
  cases hseeds : workspace.eligible query.scope with
  | error other =>
      rw [GraphBuild.eligible_error_iff, hfilter] at hseeds
      contradiction
  | ok seeds =>
      have htime : (Graph.build workspace query).eval oracle ≠ .error (.timeout .dependencies) :=
        fun htimeout => hne (Except.error.inj (h.symm.trans htimeout))
      obtain ⟨graph, hgraph, -⟩ := GraphBuild.build_declared_of_ne_timeout hseeds htime
      rw [h] at hgraph
      contradiction

/-- After every run, a request for unused exports that does not run out of time fails only if the
scope of the request is no scope. Otherwise it is answered from the graph that the files give for the
request, with the top-level exports of the files of that graph that are unused: file by file in
ascending order, and within a file in the order of its symbols. -/
theorem unused_exports_exact (workspace : Workspace) (steps : List Step) (query : GraphQuery)
    (htime : ∀ operation, (((fresh workspace).follow steps).handle (.unusedExports query)).1 ≠
      .error (.timeout operation)) :
    let engine := (fresh workspace).follow steps
    (∀ failure, workspace.filter query.scope = .error failure →
      (engine.handle (.unusedExports query)).1 = .error failure) ∧
    ∀ filter, workspace.filter query.scope = .ok filter →
      ∃ graph, (engine.handle (.dependencyGraph query)).1 = .ok graph ∧
        freshGraph workspace query.key = .ok graph ∧
        ∃ files, Path.Ascending files ∧
          (∀ path, path ∈ files ↔ IsUnused workspace graph filter path) ∧
          (engine.handle (.unusedExports query)).1 =
            .ok (files.flatMap workspace.topLevelExports) := by
  have hholding := (holding_fresh workspace).follow steps
  refine ⟨fun failure hfilter => ?_, fun filter hfilter => ?_⟩
  · have hseeds := (GraphBuild.eligible_error_iff workspace).mpr hfilter
    rcases hholding.dependency_graph_eq query with ⟨graph, -, hfresh⟩ | ⟨other, hgraph, hbuilt⟩
    · obtain ⟨seeds, hok, -⟩ := declared_of_fresh_graph hfresh
      exact nomatch hseeds.symm.trans hok
    · rw [GraphBuild.build_of_error hseeds] at hbuilt
      exact unused_exports_of_error (hgraph.trans hbuilt.symm)
  · rcases hholding.dependency_graph_eq query with ⟨graph, hgraph, hfresh⟩ |
      ⟨failure, hgraph, hbuilt⟩
    · obtain ⟨seeds, -, hdeclared⟩ := declared_of_fresh_graph hfresh
      have hanswer := hholding.unused_exports_eq hgraph
      refine ⟨graph, hgraph, hfresh, ?_⟩
      rcases UnusedExport.eval_find_of_declared hdeclared hfilter with htimeout |
        ⟨files, hascending, hunused, hfound⟩
      · exact absurd (hanswer.trans htimeout) (htime .unusedExports)
      · exact ⟨files, hascending, hunused, hanswer.trans hfound⟩
    · obtain rfl := build_error_of_filter hfilter hbuilt
      exact absurd (unused_exports_of_error hgraph) (htime .dependencies)

/-- A workspace of a file with an export and of one that it imports. -/
def importerAndImported : Workspace where
  root := ⟨"/ws"⟩
  storage := MemoryFiles.storage
    ⟨[(⟨"/ws/a.ts"⟩, some "import './b';\nexport const x = 1;".toList),
      (⟨"/ws/b.ts"⟩, some "export const y = 2;".toList)]⟩ false
  parser := some SymbolParser.ofLines

/-- The export of the file that imports the other. -/
def importerExport : UnusedExport where
  symbol := {
    name := "x"
    kind := .constant
    location := { path := ⟨"/ws/a.ts"⟩, startLine := 2, endLine := 2, column := some 14 }
    modifiers := [.exported]
    details := some "export const x = 1" }
  file := "a.ts"

/-- The importing file has an unused export, and the imported one has none. -/
theorem importer_export_unused :
    (((fresh importerAndImported).follow [.handled .cycles]).handle (.unusedExports {})).1 =
      .ok [importerExport] ∧
    ∃ graph filter, freshGraph importerAndImported {} = .ok graph ∧
      importerAndImported.filter {} = .ok filter ∧
      ¬IsUnused importerAndImported graph filter ⟨"/ws/b.ts"⟩ := by
  obtain ⟨hanswer, hfilter, hexport⟩ :
      (((fresh importerAndImported).follow [.handled .cycles]).handle (.unusedExports {})).1 =
        .ok [importerExport] ∧
      (importerAndImported.filter {}).toOption.isSome = true ∧
      ∃ found ∈ importerAndImported.topLevelExports ⟨"/ws/b.ts"⟩, found.file ≠ "a.ts" := by
    decide +kernel
  have htime : ∀ operation, (((fresh importerAndImported).follow [.handled .cycles]).handle
      (.unusedExports {})).1 ≠ .error (.timeout operation) := by
    intro operation herror
    exact nomatch hanswer.symm.trans herror
  cases hok : importerAndImported.filter {} with
  | error failure =>
      rw [hok] at hfilter
      exact Bool.noConfusion hfilter
  | ok filter =>
      obtain ⟨graph, -, hfresh, files, -, hunused, hfound⟩ :=
        (unused_exports_exact importerAndImported [.handled .cycles] {} htime).2 filter hok
      refine ⟨hanswer, graph, filter, hfresh, rfl, fun himported => ?_⟩
      obtain ⟨found, hmem, hfile⟩ := hexport
      have hlisted : found ∈ files.flatMap importerAndImported.topLevelExports :=
        List.mem_flatMap.mpr ⟨_, (hunused _).mpr himported, hmem⟩
      rw [Except.ok.inj (hfound.symm.trans hanswer), List.mem_singleton] at hlisted
      have hname : importerExport.file = "a.ts" := rfl
      exact hfile (by rw [hlisted, hname])

/-- A workspace of one file, whose first statement declares `a` and `B` with a class between them that
is called `B`, too. -/
def classBetweenNames : Workspace where
  root := ⟨"/ws"⟩
  storage := MemoryFiles.storage
    ⟨[(⟨"/ws/a.ts"⟩,
      some "const a =\nclass B \x7b\n\x7d,\nB = 2;\nexport \x7b B \x7d;\n".toList)]⟩ false
  parser := some SymbolParser.ofLines

/-- The parser lists the names of a statement together, and so the constant of the fourth line before
the class of the second. -/
theorem constant_listed_before_class :
    (((fresh classBetweenNames).follow []).handle (.unusedExports {})).1.toOption.map
        (·.map fun unused => (unused.symbol.kind, unused.symbol.location.startLine)) =
      some [(.constant, 4), (.classDef, 2)] := by
  decide +kernel

end Engine

end CodeAtlas
