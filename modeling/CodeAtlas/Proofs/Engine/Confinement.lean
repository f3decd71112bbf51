import CodeAtlas.Proofs.Engine.LastGraph
import CodeAtlas.Proofs.Engine.Transparency
import CodeAtlas.Proofs.Inquiry.Inside
import CodeAtlas.Proofs.Query.Outside

/-!
# An engine stays inside its root

Read `Engine.LiesInside` first: what an engine remembers of files and the graph built last lie in the
paths that its workspace holds. Every request keeps this, and so does every change of the files,
announced or not. While it holds, `handle_outside` says that a request is answered alike, and leaves
the same behind, whatever reading a path outside the root would give. Where paths go by their
spelling, `run_confined` puts both together with what specifiers lead to.
-/

namespace CodeAtlas

/-- An event that leaves a workspace confined: changed files still go by the spelling of their paths,
and what is asked without being resolved is a path that the workspace holds. -/
def Event.IsConfined (workspace : Workspace) : Event → Prop
  | .change _ storage => storage.IsLexical
  | .request asked => asked.IsInside workspace

/-- The event where changed files are read in another way outside a root. -/
def Event.withOutside (root : Path) (read : Path → Except ReadFault Text) : Event → Event
  | .change path storage => .change path (storage.withOutside root read)
  | .request asked => .request asked

namespace Engine

/-- An engine remembers nothing of files outside its workspace, and neither does its graph. -/
structure LiesInside (engine : Engine) : Prop where
  cache : engine.cache.LiesIn engine.workspace.Holds
  graph : ∀ key graph, engine.graph = some (key, graph) → graph.LiesIn engine.workspace.Holds

/-- The engine where paths that lead out of its root are read in another way. -/
def withOutside (engine : Engine) (read : Path → Except ReadFault Text) : Engine :=
  { engine with workspace := engine.workspace.withOutside read }

/-- The outcome with an engine where paths that lead out of its root are read in another way. -/
def outside {α : Type} (read : Path → Except ReadFault Text)
    (outcome : Except Failure α × Engine) : Except Failure α × Engine :=
  (outcome.1, outcome.2.withOutside read)

/-- An engine that has not answered anything remembers nothing. -/
theorem lies_inside_fresh (workspace : Workspace) : (fresh workspace).LiesInside :=
  ⟨Cache.lies_in_empty _, fun _ _ h => nomatch h⟩

section Request

variable {engine : Engine}
  (hparser : ∀ parser, engine.workspace.parser = some parser → parser.Located)
  (h : engine.LiesInside)

include hparser h

/-- An inquiry about paths of the workspace gives what it is said to give, and leaves the engine
inside. -/
theorem inquire_lies_inside {α : Type} {gives : α → Prop} {inquiry : Inquiry α}
    (hasks : inquiry.Asks engine.workspace.Holds gives) :
    (∀ value, (engine.inquire inquiry).1 = .ok value → gives value) ∧
      (engine.inquire inquiry).2.LiesInside := by
  obtain ⟨hgives, hcache⟩ := Inquiry.run_lies_in hparser hasks h.cache
  exact ⟨hgives, hcache, h.graph⟩

/-- A graph that is given lies in the workspace, and the engine stays inside. -/
theorem dependency_graph_lies_inside (query : GraphQuery) :
    (∀ graph, (engine.dependencyGraph query).1 = .ok graph →
      graph.LiesIn engine.workspace.Holds) ∧
    (engine.dependencyGraph query).2.LiesInside := by
  obtain ⟨hgraph, hlater⟩ := inquire_lies_inside hparser h
    (Graph.asks_build (covers_holds engine.workspace) query)
  rcases engine.dependency_graph_cases query with ⟨graph, hslot, heq⟩ |
    ⟨failure, later, hbuilt, heq⟩ | ⟨graph, later, hbuilt, heq⟩
  · rw [heq]
    exact ⟨fun found hfound => Except.ok.inj hfound ▸ h.graph _ _ hslot, h⟩
  · rw [hbuilt] at hlater
    rw [heq]
    exact ⟨nofun, hlater⟩
  · have hworkspace : later.workspace = engine.workspace :=
      congrArg (·.2.workspace) hbuilt.symm
    rw [hbuilt] at hgraph hlater
    rw [heq]
    refine ⟨hgraph, hlater.cache, fun key found hfound => ?_⟩
    obtain ⟨-, rfl⟩ := Prod.mk.inj (Option.some.inj hfound)
    exact hworkspace ▸ hgraph _ rfl

/-- A graph that is given leaves an engine inside the same workspace, and the search for unused
exports in this graph asks about paths of the workspace only. -/
theorem graph_given {query : GraphQuery} {graph : Graph} {later : Engine}
    (hgraph : engine.dependencyGraph query = (.ok graph, later)) :
    later.LiesInside ∧ later.workspace = engine.workspace ∧
      (UnusedExport.find later.workspace graph query).Asks later.workspace.Holds fun _ => True := by
  obtain ⟨hbuilt, hlater⟩ := dependency_graph_lies_inside hparser h query
  have hworkspace := engine.dependency_graph_workspace query
  rw [hgraph] at hbuilt hlater hworkspace
  refine ⟨hlater, hworkspace, UnusedExport.asks_find (fun entry hentry => ?_) query⟩
  exact hworkspace.symm ▸ ((hbuilt graph rfl).nodes entry hentry).path

/-- Looking for unused exports leaves the engine inside. -/
theorem unused_exports_lies_inside (query : GraphQuery) :
    (engine.unusedExports query).2.LiesInside := by
  rcases engine.unused_exports_cases query with ⟨failure, later, hgraph, heq⟩ |
    ⟨graph, later, hgraph, heq⟩
  · have hlater := (dependency_graph_lies_inside hparser h query).2
    rw [hgraph] at hlater
    rwa [heq]
  · obtain ⟨hlater, hworkspace, hasks⟩ := graph_given hparser h hgraph
    rw [heq]
    exact (inquire_lies_inside (hworkspace ▸ hparser) hlater hasks).2

/-- Answering a request leaves an engine inside. -/
theorem handle_lies_inside {request : Request} (hinside : request.IsInside engine.workspace) :
    (engine.handle request).2.LiesInside := by
  refine handle_inside (motive := fun later => later.LiesInside) h ?_ ?_ ?_ ?_ ?_ hinside
  · exact fun hasks => (inquire_lies_inside hparser h hasks).2
  · exact fun query => (dependency_graph_lies_inside hparser h query).2
  · exact fun query => unused_exports_lies_inside hparser h query
  · exact ⟨Cache.lies_in_empty _, fun _ _ hgraph => nomatch hgraph⟩
  · exact fun path => ⟨h.cache.invalidate path, fun _ _ hgraph => nomatch hgraph⟩

variable (read : Path → Except ReadFault Text)

/-- An inquiry about paths of the workspace is answered alike whatever lies outside the root. -/
theorem inquire_outside {α : Type} {gives : α → Prop} {inquiry inquiry' : Inquiry α}
    (heq : inquiry' = inquiry) (hasks : inquiry.Asks engine.workspace.Holds gives) :
    (engine.withOutside read).inquire inquiry' = outside read (engine.inquire inquiry) := by
  have hrun := Inquiry.run_outside hparser hasks h.cache read
  subst heq
  simp only [inquire, withOutside, hrun]
  rfl

omit hparser h in
/-- A request for a path is answered alike if it is so for the resolved path. -/
theorem at_path_outside {α : Type} (path : Path) {next next' : Path → Except Failure α × Engine}
    (hnext : ∀ path, engine.workspace.Holds path → next' path = outside read (next path)) :
    (engine.withOutside read).atPath path next' = outside read (engine.atPath path next) := by
  have hresolve : (engine.withOutside read).workspace.resolve path =
      engine.workspace.resolve path := rfl
  unfold atPath
  rw [hresolve]
  split
  · next resolved hresolved => exact hnext resolved (Workspace.resolve_holds hresolved)
  · rfl

variable (habsolute : engine.workspace.root.isAbsolute = true)
  (hplain : engine.workspace.root.IsPlain)

include habsolute hplain

/-- The same graph is given whatever lies outside the root. -/
theorem dependency_graph_outside (query : GraphQuery) :
    (engine.withOutside read).dependencyGraph query =
      outside read (engine.dependencyGraph query) := by
  have hbuild := inquire_outside hparser h read
    (Graph.build_outside read habsolute hplain query)
    (Graph.asks_build (covers_holds engine.workspace) query)
  have hslot : (engine.withOutside read).graph = engine.graph := rfl
  have hworkspace : (engine.withOutside read).workspace = engine.workspace.withOutside read := rfl
  unfold dependencyGraph
  rw [hslot, hworkspace, hbuild]
  rcases engine.inquire (Graph.build engine.workspace query) with ⟨failure | graph, later⟩
  · rcases engine.graph with _ | ⟨key, graph⟩
    · rfl
    · dsimp only [outside]
      split <;> rfl
  · rcases engine.graph with _ | ⟨key, last⟩
    · rfl
    · dsimp only [outside]
      split <;> rfl

/-- An answer from the graph built last is the same whatever lies outside the root. -/
theorem with_graph_outside {α : Type} (answer : Graph → α) :
    (engine.withOutside read).withGraph answer = outside read (engine.withGraph answer) := by
  have hbuild := dependency_graph_outside hparser h read habsolute hplain {}
  have hcurrent : (engine.withOutside read).currentGraph = outside read engine.currentGraph := by
    have hslot : (engine.withOutside read).graph = engine.graph := rfl
    unfold currentGraph
    rw [hslot, hbuild]
    split <;> rfl
  unfold withGraph
  rw [hcurrent]
  rcases engine.currentGraph with ⟨failure | graph, later⟩ <;> rfl

/-- The same unused exports are given whatever lies outside the root. -/
theorem unused_exports_outside (query : GraphQuery) :
    (engine.withOutside read).unusedExports query = outside read (engine.unusedExports query) := by
  have hgraph := dependency_graph_outside hparser h read habsolute hplain query
  unfold unusedExports
  rw [hgraph]
  rcases hresult : engine.dependencyGraph query with ⟨failure | graph, later⟩
  · rfl
  · obtain ⟨hlater, hworkspace, hasks⟩ := graph_given hparser h hresult
    exact inquire_outside (hworkspace ▸ hparser) hlater read rfl hasks

/-- A request is answered alike and leaves the same behind, whatever lies outside the root. -/
theorem handle_outside {request : Request} (hinside : request.IsInside engine.workspace) :
    (engine.withOutside read).handle request = outside read (engine.handle request) := by
  have hcovers : Covers engine.workspace engine.workspace.Holds := covers_holds engine.workspace
  have hlast : ∀ {α : Type} (answer : Graph → α),
      (engine.withOutside read).withGraph answer = outside read (engine.withGraph answer) :=
    fun answer => with_graph_outside hparser h read habsolute hplain answer
  cases request with
  | search query =>
      exact inquire_outside hparser h read (Search.find_outside read query)
        (Search.asks_find hcovers query)
  | outline path =>
      refine at_path_outside read path fun path hpath => ?_
      have hasks : (do return Outline.ofSymbols (← Inquiry.get (.symbols path))
          : Inquiry (List Outline)).Asks engine.workspace.Holds fun _ => True :=
        (Inquiry.asks_get hpath).bind fun _ _ => Inquiry.asks_pure trivial
      exact inquire_outside hparser h read rfl hasks
  | context path line size =>
      exact at_path_outside read path fun path hpath =>
        inquire_outside hparser h read rfl (Context.asks_around hpath line _)
  | references query =>
      exact inquire_outside hparser h read (Reference.find_outside read habsolute hplain query)
        (Reference.asks_find hcovers query)
  | definition position =>
      exact inquire_outside hparser h read
        (Navigation.definition_outside read habsolute hplain position)
        (Navigation.asks_definition hcovers position)
  | implementations position =>
      exact inquire_outside hparser h read
        (Navigation.implementations_outside read habsolute hplain position)
        (Navigation.asks_implementations hcovers position)
  | derivedClasses position =>
      exact inquire_outside hparser h read
        (Navigation.derived_classes_outside read habsolute hplain position)
        (Navigation.asks_derived_classes hcovers position)
  | typeHint position =>
      exact inquire_outside hparser h read
        (Hint.of_position_outside read habsolute hplain position)
        (Hint.asks_of_position hcovers position)
  | dependencyGraph query => exact dependency_graph_outside hparser h read habsolute hplain query
  | dependencies path | dependents path | edgeCounts path =>
      exact at_path_outside read path fun _ _ => hlast _
  | cycles | mostReferenced => exact hlast _
  | unusedExports query => exact unused_exports_outside hparser h read habsolute hplain query
  | directDependencies path =>
      have hpath : engine.workspace.Holds path := hinside
      have hasks : (do Inquiry.ofExcept (← Navigation.directDependencies engine.workspace path)
          : Inquiry (List Path)).Asks engine.workspace.Holds fun _ => True :=
        (Navigation.asks_direct_dependencies hpath).bind fun _ _ =>
          Inquiry.asks_of_except fun _ _ => trivial
      have hsame : (do Inquiry.ofExcept (← Navigation.directDependencies
            (engine.workspace.withOutside read) path) : Inquiry (List Path)) =
          (do Inquiry.ofExcept (← Navigation.directDependencies engine.workspace path)) := by
        rw [Navigation.direct_dependencies_outside read habsolute hplain]
      exact inquire_outside hparser h read hsame hasks
  | ask question =>
      have hpath : engine.workspace.Holds question.path := hinside
      exact inquire_outside hparser h read rfl (Inquiry.asks_get hpath)
  | clear => rfl
  | invalidate path => exact at_path_outside read path fun _ _ => rfl

end Request

/-- An event changes no root. -/
theorem root_after_eq (engine : Engine) (event : Event) :
    (engine.after event).workspace.root = engine.workspace.root := by
  cases event with
  | change path storage => rfl
  | request request => exact congrArg Workspace.root (engine.handle_workspace request)

/-- What holds during a run of events that leave a workspace confined. -/
structure Confined (engine : Engine) : Prop where
  lexical : engine.workspace.IsLexical
  located : ∀ parser, engine.workspace.parser = some parser → parser.Located
  inside : engine.LiesInside

section Run

variable {engine : Engine}

/-- An event leaves an engine confined. -/
theorem Confined.after (h : engine.Confined) {event : Event}
    (hevent : event.IsConfined engine.workspace) : (engine.after event).Confined := by
  cases event with
  | change path storage =>
      exact ⟨⟨h.lexical.absolute, h.lexical.plain, hevent⟩, h.located, h.inside.cache, h.inside.graph⟩
  | request request =>
      have hworkspace := engine.handle_workspace request
      have hinside := handle_lies_inside h.located h.inside hevent
      exact ⟨hworkspace ▸ h.lexical, hworkspace ▸ h.located, hinside⟩

/-- What leaves a workspace confined, depends on its root only. -/
theorem is_confined_after (event other : Event) :
    other.IsConfined (engine.after event).workspace ↔ other.IsConfined engine.workspace := by
  have hholds : (engine.after event).workspace.Holds = engine.workspace.Holds := by
    funext path
    rw [Workspace.Holds, Workspace.Holds, root_after_eq]
  cases other with
  | change path storage => exact Iff.rfl
  | request request =>
      cases request with
      | ask question => exact iff_of_eq (congrFun hholds question.path)
      | directDependencies path => exact iff_of_eq (congrFun hholds path)
      | _ => exact Iff.rfl

/-- A run leaves an engine confined. -/
theorem Confined.run (h : engine.Confined) {events : List Event}
    (hevents : ∀ event ∈ events, event.IsConfined engine.workspace) :
    (engine.run events).Confined := by
  induction events generalizing engine with
  | nil => exact h
  | cons event rest ih =>
      obtain ⟨hevent, hrest⟩ := List.forall_mem_cons.mp hevents
      refine ih (h.after hevent) fun other hother => ?_
      exact (is_confined_after event other).mpr (hrest other hother)

/-- An event leaves the same behind, whatever lies outside the root. -/
theorem after_outside (h : engine.Confined) {event : Event}
    (hevent : event.IsConfined engine.workspace) (read : Path → Except ReadFault Text) :
    (engine.withOutside read).after (event.withOutside engine.workspace.root read) =
      (engine.after event).withOutside read := by
  cases event with
  | change path storage => rfl
  | request request =>
      exact congrArg Prod.snd
        (handle_outside h.located h.inside read h.lexical.absolute h.lexical.plain hevent)

/-- A run leaves the same behind, whatever lies outside the root. -/
theorem run_outside (h : engine.Confined) {events : List Event}
    (hevents : ∀ event ∈ events, event.IsConfined engine.workspace)
    (read : Path → Except ReadFault Text) :
    (engine.withOutside read).run (events.map (·.withOutside engine.workspace.root read)) =
      (engine.run events).withOutside read := by
  induction events generalizing engine with
  | nil => rfl
  | cons event rest ih =>
      obtain ⟨hevent, hrest⟩ := List.forall_mem_cons.mp hevents
      have hlater := ih (h.after hevent) fun other hother =>
        (is_confined_after event other).mpr (hrest other hother)
      rw [root_after_eq] at hlater
      rw [List.map_cons, run, List.foldl_cons, after_outside h hevent read]
      exact hlater

end Run

/-- Where paths go by their spelling, an engine is confined to its root, whatever requests it answers
and whatever becomes of the files: all paths at which it remembers something, and all paths of its
graphs, stand for themselves under the root and have no dots; a specifier leads to such a path, where
there is a file if it is written in a file with an absolute path, or outside the workspace. Nothing is
read outside the root: the manifests of packages lie under it, and whatever reading any other path
would give, the engine answers the same. -/
theorem run_confined (workspace : Workspace) (hlexical : workspace.IsLexical)
    (hparser : ∀ parser, workspace.parser = some parser → parser.Located) (events : List Event)
    (hevents : ∀ event ∈ events, event.IsConfined workspace) :
    let engine := (fresh workspace).run events
    (∀ path ∈ engine.cache.paths, engine.workspace.Confines path) ∧
    (∀ key graph, engine.graph = some (key, graph) → graph.LiesIn engine.workspace.Confines) ∧
    (∀ query graph, (engine.handle (.dependencyGraph query)).1 = .ok graph →
      graph.LiesIn engine.workspace.Confines) ∧
    (∀ origin specifier installed path,
      engine.workspace.resolveImport origin specifier installed = .internal path →
      engine.workspace.Confines path ∧
        (origin.isAbsolute = true → engine.workspace.storage.isFile path = true)) ∧
    (∀ specifier, Resolution.IsBare specifier →
      (Workspace.manifestOf (engine.workspace.packageDirectory specifier)).normalize.startsWith
        engine.workspace.root = true) ∧
    (∀ read : Path → Except ReadFault Text,
      (fresh (workspace.withOutside read)).run (events.map (·.withOutside workspace.root read)) =
        engine.withOutside read ∧
      ∀ request : Request, request.IsInside engine.workspace →
        ((engine.withOutside read).handle request).1 = (engine.handle request).1) := by
  have hfresh : (fresh workspace).Confined := ⟨hlexical, hparser, lies_inside_fresh workspace⟩
  have h : ((fresh workspace).run events).Confined := hfresh.run hevents
  have hlies : ∀ {graph : Graph},
      graph.LiesIn ((fresh workspace).run events).workspace.Holds →
      graph.LiesIn ((fresh workspace).run events).workspace.Confines :=
    fun hgraph => hgraph.imp fun _ => h.lexical.confines
  refine ⟨?_, ?_, ?_, ?_, ?_, ?_⟩
  · exact fun path hpath => h.lexical.confines (h.inside.cache.of_mem_paths hpath)
  · exact fun key graph hgraph => hlies (h.inside.graph key graph hgraph)
  · exact fun query graph hgraph =>
      hlies ((dependency_graph_lies_inside h.located h.inside query).1 graph hgraph)
  · exact fun origin specifier installed path => Workspace.internal_confined h.lexical
  · exact fun specifier => Workspace.manifest_stays_inside h.lexical.absolute h.lexical.plain
  · intro read
    refine ⟨run_outside hfresh hevents read, fun request hinside => ?_⟩
    rw [handle_outside h.located h.inside read h.lexical.absolute h.lexical.plain hinside]
    rfl

/-- A look at a file, and a try to look outside the root. -/
def prowl : List Event :=
  [.request (.ask (.content ⟨"/ws/b.ts"⟩)), .request (.outline ⟨"../etc/passwd"⟩)]

/-- After a look at one of two files, an engine remembers this file at a path that stands for itself,
and builds a graph of such paths, as it would if everything outside the root could not be read. -/
theorem run_confined_two_files :
    GraphBuild.twoFiles.IsLexical ∧ (∀ event ∈ prowl, event.IsConfined GraphBuild.twoFiles) ∧
    ((fresh GraphBuild.twoFiles).run prowl).cache.paths = [⟨"/ws/b.ts"⟩] ∧
    GraphBuild.twoFiles.Confines ⟨"/ws/b.ts"⟩ ∧
    ∃ graph, (((fresh GraphBuild.twoFiles).run prowl).handle (.dependencyGraph {})).1 = .ok graph ∧
      graph.LiesIn GraphBuild.twoFiles.Confines ∧
      ((((fresh GraphBuild.twoFiles).run prowl).withOutside fun _ => .error .unreadable).handle
        (.dependencyGraph {})).1 = .ok graph := by
  have hlexical : GraphBuild.twoFiles.IsLexical :=
    ⟨by decide, by decide, MemoryFiles.storage_is_lexical _ _⟩
  have hparser : ∀ parser, GraphBuild.twoFiles.parser = some parser → parser.Located :=
    fun parser h => Option.some.inj h ▸ SymbolParser.default_located
  have hevents : ∀ event ∈ prowl, event.IsConfined GraphBuild.twoFiles := by
    simp only [prowl, List.forall_mem_cons]
    exact ⟨⟨by decide, by decide⟩, trivial, by simp⟩
  have hpaths : ((fresh GraphBuild.twoFiles).run prowl).cache.paths = [⟨"/ws/b.ts"⟩] := rfl
  have hworkspace : ((fresh GraphBuild.twoFiles).run prowl).workspace = GraphBuild.twoFiles := rfl
  obtain ⟨hcache, _, hgraphs, _, _, houtside⟩ :=
    run_confined GraphBuild.twoFiles hlexical hparser prowl hevents
  -- Both requests leave what is remembered right, so the graph is that of the files.
  have hremembers : ((fresh GraphBuild.twoFiles).run prowl).Remembers :=
    handle_remembers (handle_remembers (fresh_remembers _) _) _
  obtain ⟨graph, hgraph, _⟩ := GraphBuild.build_two_files
  have hanswer : (((fresh GraphBuild.twoFiles).run prowl).handle (.dependencyGraph {})).1 =
      .ok graph :=
    (dependency_graph_of_none hremembers rfl {}).trans (by rw [hworkspace, hgraph])
  rw [hworkspace] at hcache hgraphs houtside
  refine ⟨hlexical, hevents, hpaths, hcache _ (by simp [hpaths]), graph, hanswer,
    hgraphs {} graph hanswer, ?_⟩
  rw [((houtside _).2 (.dependencyGraph {}) trivial), hanswer]

end Engine

end CodeAtlas
