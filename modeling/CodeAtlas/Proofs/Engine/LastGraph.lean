import CodeAtlas.Proofs.Engine.Handle
import CodeAtlas.Proofs.Graph.Declared

/-!
# Which graph an engine answers from

Read `Engine.latest` first: of a run, it gives the latest request for a graph that was answered
since the engine last forgot, without looking at the graph that the engine keeps. `Engine.Leaves`
says what each kind of request does to that graph, and `Engine.handle_settles` proves it. From this
follow both main facts: the graph that is used is the one an engine without a history builds for the
latest request, and a request that fails leaves no trace in later answers.
-/

namespace CodeAtlas

/-- The workspace without a time budget of its own. -/
def Workspace.unhurried (workspace : Workspace) : Workspace :=
  { workspace with config := { workspace.config with scanTimeout := none } }

/-- The request for a graph that decides which graph is used after a request was answered, if `last`
decided before. -/
def Request.graphAfter (last : Option GraphQuery) : Request → Option GraphQuery
  | .clear | .invalidate _ => none
  | .dependencyGraph query | .unusedExports query => some query.key
  -- Where there is no graph, that of a request without conditions is built and kept.
  | .dependencies _ | .dependents _ | .edgeCounts _ | .cycles | .mostReferenced _ =>
    some (last.getD {})
  | _ => last

namespace GraphBuild

variable {workspace : Workspace} {oracle : (question : Question) → Except Failure question.Answer}
  {withPackages : Bool} {seeds : List Path}

/-- Where nothing is selected, nothing is within any number of hops. -/
theorem not_within_nil {hops : Nat} {path : Path} :
    ¬ Within workspace oracle withPackages [] hops path := by
  intro h
  induction h with
  | seed hseed => exact List.not_mem_nil hseed
  | hop _ _ _ ih => exact ih

/-- Where nothing is selected, the graph has no nodes. -/
theorem Declared.nodes_eq_nil {maxDepth : Nat} {graph : Graph}
    (h : Declared workspace oracle withPackages maxDepth [] graph) : graph.nodes = [] := by
  refine List.eq_nil_iff_forall_not_mem.mpr fun entry hentry => ?_
  exact not_within_nil ((h.mem_paths entry.1).mp (List.mem_map_of_mem hentry)).1

/-- Time budgets do not decide which files are within some hops. -/
theorem within_unhurried_iff {hops : Nat} {path : Path} :
    Within workspace.unhurried oracle withPackages seeds hops path ↔
      Within workspace oracle withPackages seeds hops path := by
  constructor <;> intro h
  · induction h with
    | seed hseed => exact .seed hseed
    | hop _ hmodule htarget ih => exact .hop ih hmodule htarget
  · induction h with
    | seed hseed => exact .seed hseed
    | hop _ hmodule htarget ih => exact .hop ih hmodule htarget

/-- Time budgets do not decide which graph is described. -/
theorem Declared.unhurried {maxDepth : Nat} {graph : Graph}
    (h : Declared workspace oracle withPackages maxDepth seeds graph) :
    Declared workspace.unhurried oracle withPackages maxDepth seeds graph where
  mem_paths path := by rw [h.mem_paths, within_unhurried_iff]
  node_eq := h.node_eq
  mem_externals := h.mem_externals

/-- A graph that is described without time budgets is described with them. -/
theorem Declared.of_unhurried {maxDepth : Nat} {graph : Graph}
    (h : Declared workspace.unhurried oracle withPackages maxDepth seeds graph) :
    Declared workspace oracle withPackages maxDepth seeds graph where
  mem_paths path := by rw [h.mem_paths, within_unhurried_iff]
  node_eq := h.node_eq
  mem_externals := h.mem_externals

/-- A graph that is built in time is built without time budgets as well. -/
theorem build_unhurried {query : GraphQuery} {graph : Graph}
    (h : (Graph.build workspace query).eval oracle = .ok graph) :
    (Graph.build workspace.unhurried query.key).eval oracle = .ok graph := by
  obtain ⟨seeds, hseeds, hdeclared⟩ := exists_declared_of_build h
  have hseeds' : workspace.unhurried.eligible query.key.scope = .ok seeds := hseeds
  obtain ⟨other, hother, hdeclared'⟩ := build_declared hseeds' (Or.inl rfl)
  rw [hother, hdeclared'.unique hdeclared.unhurried]

end GraphBuild

namespace UnusedExport

variable {workspace : Workspace} {oracle : (question : Question) → Except Failure question.Answer}

/-- The exports of files are found if there is time. -/
theorem eval_of_nodes {deadline : Deadline} (h : deadline.check = .ok ()) (nodes : List Node) :
    ∃ unused, (ofNodes deadline nodes).eval oracle = .ok unused := by
  induction nodes with
  | nil => exact ⟨[], rfl⟩
  | cons node rest ih =>
      obtain ⟨unused, hunused⟩ := ih
      simp only [ofNodes, Inquiry.eval_bind, Inquiry.eval_check, h, hunused, Inquiry.eval_pure]
      exact ⟨_, rfl⟩

/-- In a graph that has been built in time, unused exports are found. -/
theorem eval_find_of_build {query : GraphQuery} {graph : Graph}
    (h : (Graph.build workspace query).eval oracle = .ok graph) :
    ∃ unused, (find workspace graph query).eval oracle = .ok unused := by
  obtain ⟨seeds, hseeds, hdeclared⟩ := GraphBuild.exists_declared_of_build h
  cases hfilter : workspace.filter query.scope with
  | error failure =>
      rw [(GraphBuild.eligible_error_iff workspace).mpr hfilter] at hseeds
      contradiction
  | ok filter =>
      simp only [find, Inquiry.eval_bind, Inquiry.eval_of_except, hfilter]
      -- Both time budgets are the same, so either both are used up or none is.
      by_cases hexpired : (GraphBuild.deadlineOf workspace query).isExpired = true
      · have hcheck : (GraphBuild.deadlineOf workspace query).check =
            .error (.timeout .dependencies) := if_pos hexpired
        -- Without time, a graph is built only where there is nothing to read.
        have hnone : seeds = [] := by
          by_contra hne
          rw [GraphBuild.build_of_expired hseeds hne hcheck] at h
          contradiction
        subst hnone
        rw [hdeclared.nodes_eq_nil]
        exact ⟨[], rfl⟩
      · have hcheck : ({ operation := .unusedExports
                         limit := query.timeout.or workspace.config.scanTimeout } :
            Deadline).check = .ok () := if_neg hexpired
        exact eval_of_nodes hcheck _

end UnusedExport

/-- The inquiry given up for a failure after a number of questions. -/
def Inquiry.giveUp {α : Type} (failure : Failure) : (questions : Nat) → Inquiry α → Inquiry α
  | questions + 1, .ask question next =>
    .ask question fun answer => (next answer).giveUp failure questions
  | _, _ => .fail failure

namespace Engine

/-- Something that an engine does. -/
inductive Step where
  /-- It handles a request. -/
  | handled (request : Request)
  /-- The time budget of an operation is used up while an inquiry goes on, after some questions. -/
  | outOfTime (operation : Operation) {α : Type} (inquiry : Inquiry α) (questions : Nat)

/-- The engine after a step. -/
def next (engine : Engine) : Step → Engine
  | .handled request => (engine.handle request).2
  | .outOfTime operation inquiry questions =>
    (engine.inquire (inquiry.giveUp (.timeout operation) questions)).2

/-- The engine after several steps. -/
def follow (engine : Engine) (steps : List Step) : Engine :=
  steps.foldl next engine

/-- A step that gives a failure in place of an answer. -/
def Fails (engine : Engine) : Step → Prop
  | .handled request => ∃ failure, (engine.handle request).1 = .error failure
  | .outOfTime .. => True

/-- The latest request for a graph after a step. -/
def latestAfter (engine : Engine) (last : Option GraphQuery) : Step → Option GraphQuery
  | .handled request =>
    match (engine.handle request).1 with
    | .ok _ => request.graphAfter last
    | .error _ => last
  | .outOfTime .. => last

/-- The latest request for a graph after several steps. -/
def latest (engine : Engine) (last : Option GraphQuery) : List Step → Option GraphQuery
  | [] => last
  | step :: rest => latest (engine.next step) (engine.latestAfter last step) rest

/-- What an engine that has not answered anything gives for a graph, time budgets left aside. -/
def freshGraph (workspace : Workspace) (query : GraphQuery) : Except Failure Graph :=
  ((fresh workspace.unhurried).handle (.dependencyGraph query.key)).1

/-- `AnswersFrom engine built` says that the requests that are not for a graph of their own are
answered from `built`, or fail as it does. A path is resolved first. -/
structure AnswersFrom (engine : Engine) (built : Except Failure Graph) : Prop where
  dependencies : ∀ path, (engine.handle (.dependencies path)).1 = (do
    let resolved ← engine.workspace.resolve path
    built.map (·.transitiveDependencies resolved))
  dependents : ∀ path, (engine.handle (.dependents path)).1 = (do
    let resolved ← engine.workspace.resolve path
    built.map (·.transitiveDependents resolved))
  edgeCounts : ∀ path, (engine.handle (.edgeCounts path)).1 = (do
    let resolved ← engine.workspace.resolve path
    built.map fun graph => (graph.node? resolved).map fun node =>
      { file := node.relative, dependencies := node.dependencies.length
        dependents := node.dependents.length })
  cycles : (engine.handle .cycles).1 = built.map (·.cycles)
  mostReferenced : ∀ limit, (engine.handle (.mostReferenced limit)).1 =
    built.map (·.mostReferenced limit)

/-- What an engine remembers of files is right. -/
def Remembers (engine : Engine) : Prop :=
  engine.cache.Faithful engine.workspace []

variable {engine : Engine}

/-- An inquiry is answered from the files. -/
theorem inquire_remembers (h : engine.Remembers) {α : Type} (inquiry : Inquiry α) :
    (engine.inquire inquiry).1 = inquiry.eval engine.workspace.answer ∧
      (engine.inquire inquiry).2.Remembers :=
  Inquiry.run_faithful inquiry h

/-- Handling a request leaves what is remembered right. -/
theorem handle_remembers (h : engine.Remembers) (request : Request) :
    (engine.handle request).2.Remembers :=
  handle_preserves (motive := Remembers) (fun inquiry h => (inquire_remembers h inquiry).2)
    (fun _ h => h) (fun _ => Cache.faithful_empty _ _)
    (fun path h => Cache.Faithful.invalidate h path) h request

/-- A step leaves what is remembered right. -/
theorem next_remembers (h : engine.Remembers) (step : Step) : (engine.next step).Remembers := by
  cases step with
  | handled request => exact handle_remembers h request
  | outOfTime operation inquiry questions => exact (inquire_remembers h _).2

/-- A step leaves the workspace alone. -/
theorem next_workspace (engine : Engine) (step : Step) :
    (engine.next step).workspace = engine.workspace := by
  cases step with
  | handled request => exact engine.handle_workspace request
  | outOfTime operation inquiry questions => rfl

section Slot

/-- After a request for a graph, there is a graph with its key that was there before or that the
files give for it. -/
def Provides (workspace : Workspace) (query : GraphQuery)
    (before after : Option (GraphQuery × Graph)) : Prop :=
  ∃ graph, after = some (query.key, graph) ∧
    (before = after ∨ (Graph.build workspace query).eval workspace.answer = .ok graph)

/-- What an answered request leaves as the graph built last. -/
def Leaves (workspace : Workspace) (before after : Option (GraphQuery × Graph)) : Request → Prop
  | .clear | .invalidate _ => after = none
  | .dependencyGraph query | .unusedExports query => Provides workspace query before after
  | .dependencies _ | .dependents _ | .edgeCounts _ | .cycles | .mostReferenced _ =>
    (before.isSome = true ∧ after = before) ∨ (before = none ∧ Provides workspace {} before after)
  | _ => after = before

/-- `Settles before gives outcome` says that an answer comes with a last graph as `gives` says, and
a failure with the last graph of before. -/
def Settles {α : Type} (before : Option (GraphQuery × Graph))
    (gives : Option (GraphQuery × Graph) → Prop) (outcome : Except Failure α × Engine) : Prop :=
  match outcome.1 with
  | .ok _ => gives outcome.2.graph
  | .error _ => outcome.2.graph = before

/-- An inquiry leaves the graph built last alone. -/
theorem inquire_settles (engine : Engine) {α : Type} (inquiry : Inquiry α) :
    Settles engine.graph (· = engine.graph) (engine.inquire inquiry) := by
  unfold Settles
  split <;> rfl

/-- A path that cannot be resolved leaves the graph built last alone. -/
theorem at_path_settles {α : Type} {gives : Option (GraphQuery × Graph) → Prop}
    {next : Path → Except Failure α × Engine} (path : Path)
    (h : ∀ path, Settles engine.graph gives (next path)) :
    Settles engine.graph gives (engine.atPath path next) := by
  unfold atPath
  split
  · exact h _
  · rfl

/-- A graph that is asked for becomes the one built last, unless the build fails. -/
theorem dependency_graph_settles (h : engine.Remembers) (query : GraphQuery) :
    Settles engine.graph (Provides engine.workspace query engine.graph)
      (engine.dependencyGraph query) := by
  obtain ⟨hanswer, _⟩ := inquire_remembers h (Graph.build engine.workspace query)
  have hslot : (engine.inquire (Graph.build engine.workspace query)).2.graph = engine.graph := rfl
  rcases engine.dependency_graph_cases query with ⟨graph, hgraph, heq⟩ |
    ⟨failure, later, hbuilt, heq⟩ | ⟨graph, later, hbuilt, heq⟩
  · rw [heq]
    exact ⟨graph, hgraph, Or.inl rfl⟩
  · rw [hbuilt] at hslot
    rw [heq]
    exact hslot
  · rw [hbuilt] at hanswer
    rw [heq]
    exact ⟨graph, rfl, Or.inr hanswer.symm⟩

/-- The graph built last stays, and where there is none, that of a request without conditions is
built. -/
theorem with_graph_settles (h : engine.Remembers) {α : Type} (answer : Graph → α) :
    Settles engine.graph (fun after => (engine.graph.isSome = true ∧ after = engine.graph) ∨
      (engine.graph = none ∧ Provides engine.workspace {} engine.graph after))
      (engine.withGraph answer) := by
  have hbuilt := dependency_graph_settles h {}
  unfold withGraph currentGraph
  rcases hslot : engine.graph with _ | ⟨key, graph⟩
  · rw [hslot] at hbuilt
    rcases hresult : engine.dependencyGraph {} with ⟨failure | graph, later⟩
    · rw [hresult] at hbuilt
      exact hbuilt
    · rw [hresult] at hbuilt
      exact Or.inr ⟨rfl, hbuilt⟩
  · exact Or.inl ⟨rfl, hslot⟩

/-- Looking for unused exports fails only where the graph built last has stayed. -/
theorem find_unused_settles (h : engine.Remembers) {query : GraphQuery} {graph : Graph}
    {later : Engine} (hgraph : engine.dependencyGraph query = (.ok graph, later)) :
    later.graph = engine.graph ∨ ∃ unused,
      (later.inquire (UnusedExport.find later.workspace graph query)).1 = .ok unused := by
  have hlater : (engine.dependencyGraph query).2.Remembers :=
    handle_remembers h (.dependencyGraph query)
  have hworkspace := engine.dependency_graph_workspace query
  rw [hgraph] at hlater hworkspace
  rcases engine.dependency_graph_cases query with ⟨_, _, heq⟩ | ⟨_, _, _, heq⟩ |
    ⟨found, built, hbuilt, heq⟩
  · exact Or.inl (congrArg (·.2.graph) (hgraph.symm.trans heq))
  · exact nomatch hgraph.symm.trans heq
  · obtain ⟨hfound, _⟩ := Prod.mk.inj (hgraph.symm.trans heq)
    obtain rfl : graph = found := Except.ok.inj hfound
    have hanswer := (inquire_remembers h (Graph.build engine.workspace query)).1
    rw [hbuilt] at hanswer
    dsimp only at hworkspace hlater hanswer
    rw [(inquire_remembers hlater _).1, hworkspace]
    exact Or.inr (UnusedExport.eval_find_of_build hanswer.symm)

/-- Asking for unused exports settles the graph built last as asking for their graph does. -/
theorem unused_exports_settles (h : engine.Remembers) (query : GraphQuery) :
    Settles engine.graph (Provides engine.workspace query engine.graph)
      (engine.unusedExports query) := by
  have hsettles := dependency_graph_settles h query
  rcases engine.unused_exports_cases query with ⟨failure, later, hgraph, heq⟩ |
    ⟨graph, later, hgraph, heq⟩
  · rw [hgraph] at hsettles
    rw [heq]
    exact hsettles
  · rw [hgraph] at hsettles
    rw [heq]
    rcases hfound : (later.inquire (UnusedExport.find later.workspace graph query)).1 with
      failure | unused
    · simp only [Settles, hfound]
      refine (find_unused_settles h hgraph).resolve_right ?_
      rintro ⟨unused, hunused⟩
      exact nomatch hfound.symm.trans hunused
    · simp only [Settles, hfound]
      exact hsettles

/-- What a request does to the graph built last. -/
theorem handle_settles (h : engine.Remembers) (request : Request) :
    Settles engine.graph (fun after => Leaves engine.workspace engine.graph after request)
      (engine.handle request) := by
  cases request with
  | outline path | context path =>
      exact at_path_settles path fun _ => engine.inquire_settles _
  | dependencies path | dependents path | edgeCounts path =>
      exact at_path_settles path fun _ => with_graph_settles h _
  | cycles | mostReferenced => exact with_graph_settles h _
  | dependencyGraph query => exact dependency_graph_settles h query
  | unusedExports query => exact unused_exports_settles h query
  | clear => exact rfl
  | invalidate path => exact at_path_settles path fun _ => rfl
  | _ => exact engine.inquire_settles _

end Slot

/-- An answer from the current graph is computed from it. -/
theorem with_graph_fst (engine : Engine) {α : Type} (answer : Graph → α) :
    (engine.withGraph answer).1 = engine.currentGraph.1.map answer := by
  unfold withGraph
  rcases engine.currentGraph with ⟨failure | graph, later⟩ <;> rfl

/-- A request for a path is answered for the resolved path. -/
theorem at_path_fst (engine : Engine) {α : Type} (path : Path)
    (next : Path → Except Failure α × Engine) :
    (engine.atPath path next).1 = (do
      let resolved ← engine.workspace.resolve path
      (next resolved).1) := by
  unfold atPath
  cases engine.workspace.resolve path <;> rfl

/-- The requests that are not for a graph of their own are answered from the current one. -/
theorem answers_from_current (engine : Engine) : engine.AnswersFrom engine.currentGraph.1 where
  dependencies path := by
    simp only [handle, at_path_fst, with_graph_fst]
  dependents path := by
    simp only [handle, at_path_fst, with_graph_fst]
  edgeCounts path := by
    simp only [handle, at_path_fst, with_graph_fst]
  cycles := engine.with_graph_fst _
  mostReferenced limit := engine.with_graph_fst _

/-- Without a graph built last, the files give the graph that is asked for. -/
theorem dependency_graph_of_none (h : engine.Remembers) (hnone : engine.graph = none)
    (query : GraphQuery) :
    (engine.dependencyGraph query).1 =
      (Graph.build engine.workspace query).eval engine.workspace.answer := by
  rw [← (inquire_remembers h (Graph.build engine.workspace query)).1]
  rcases engine.dependency_graph_cases query with ⟨graph, hslot, _⟩ |
    ⟨failure, later, hbuilt, heq⟩ | ⟨graph, later, hbuilt, heq⟩
  · exact nomatch hnone.symm.trans hslot
  · rw [heq, hbuilt]
  · rw [heq, hbuilt]

/-- An engine that has not answered anything remembers nothing wrong. -/
theorem fresh_remembers (workspace : Workspace) : (fresh workspace).Remembers :=
  Cache.faithful_empty workspace []

/-- An engine that has not answered anything gives the graph that the files give. -/
theorem handle_graph_fresh (workspace : Workspace) (query : GraphQuery) :
    ((fresh workspace).handle (.dependencyGraph query)).1 =
      (Graph.build workspace query).eval workspace.answer :=
  dependency_graph_of_none (fresh_remembers workspace) rfl query

/-- A graph that the files give in time is what an engine that has not answered anything gives. -/
theorem fresh_graph_of_build {workspace : Workspace} {query : GraphQuery} {graph : Graph}
    (h : (Graph.build workspace query).eval workspace.answer = .ok graph) :
    freshGraph workspace query.key = .ok graph :=
  (handle_graph_fresh workspace.unhurried query.key).trans (GraphBuild.build_unhurried h)

/-- What holds after a run: the graph built last belongs to the latest request for a graph. -/
structure Holding (engine : Engine) (workspace : Workspace) (last : Option GraphQuery) : Prop where
  workspace_eq : engine.workspace = workspace
  remembers : engine.Remembers
  key_eq : engine.graph.map (·.1) = last
  graph_eq : ∀ key graph, engine.graph = some (key, graph) → freshGraph workspace key = .ok graph

/-- An engine that has not answered anything has no graph. -/
theorem holding_fresh (workspace : Workspace) : (fresh workspace).Holding workspace none :=
  ⟨rfl, fresh_remembers workspace, rfl, fun _ _ h => nomatch h⟩

section Holding

variable {workspace : Workspace} {last : Option GraphQuery}

/-- A step that leaves the graph built last leaves the latest request. -/
theorem Holding.of_graph_eq {later : Engine} (h : engine.Holding workspace last)
    (hworkspace : later.workspace = engine.workspace) (hremembers : later.Remembers)
    (hgraph : later.graph = engine.graph) : later.Holding workspace last :=
  ⟨hworkspace.trans h.workspace_eq, hremembers, hgraph ▸ h.key_eq, hgraph ▸ h.graph_eq⟩

/-- A graph that is provided belongs to its request. -/
theorem Holding.of_provides {later : Engine} (h : engine.Holding workspace last)
    (hworkspace : later.workspace = engine.workspace) (hremembers : later.Remembers)
    {query : GraphQuery} (hgraph : Provides engine.workspace query engine.graph later.graph) :
    later.Holding workspace (some query.key) := by
  obtain ⟨graph, hslot, hbuilt⟩ := hgraph
  refine ⟨hworkspace.trans h.workspace_eq, hremembers, by rw [hslot]; rfl, ?_⟩
  intro key found hfound
  obtain ⟨rfl, rfl⟩ := Prod.mk.inj (Option.some.inj (hslot.symm.trans hfound))
  rcases hbuilt with hbefore | hbuilt
  · exact h.graph_eq _ _ (hbefore.trans hslot)
  · exact h.workspace_eq ▸ fresh_graph_of_build hbuilt

/-- A request that is answered leaves the graph that it decides on. -/
theorem Holding.of_leaves {later : Engine} (h : engine.Holding workspace last)
    (hworkspace : later.workspace = engine.workspace) (hremembers : later.Remembers)
    {request : Request} (hleaves : Leaves engine.workspace engine.graph later.graph request) :
    later.Holding workspace (request.graphAfter last) := by
  have hforgotten : later.graph = none → later.Holding workspace none := by
    intro hnone
    refine ⟨hworkspace.trans h.workspace_eq, hremembers, by rw [hnone]; rfl, ?_⟩
    intro key graph hgraph
    exact nomatch hnone.symm.trans hgraph
  have hlast : (engine.graph.isSome = true ∧ later.graph = engine.graph) ∨
      (engine.graph = none ∧ Provides engine.workspace {} engine.graph later.graph) →
      later.Holding workspace (some (last.getD {})) := by
    rintro (⟨hsome, hgraph⟩ | ⟨hnone, hprovides⟩)
    · obtain ⟨slot, hslot⟩ := Option.isSome_iff_exists.mp hsome
      obtain rfl : some slot.1 = last := by rw [← h.key_eq, hslot]; rfl
      exact h.of_graph_eq hworkspace hremembers hgraph
    · obtain rfl : none = last := by rw [← h.key_eq, hnone]; rfl
      exact h.of_provides hworkspace hremembers hprovides
  cases request with
  | clear | invalidate => exact hforgotten hleaves
  | dependencyGraph query | unusedExports query => exact h.of_provides hworkspace hremembers hleaves
  | dependencies | dependents | edgeCounts | cycles | mostReferenced => exact hlast hleaves
  | _ => exact h.of_graph_eq hworkspace hremembers hleaves

/-- A step decides on the latest request for a graph. -/
theorem Holding.next (h : engine.Holding workspace last) (step : Step) :
    (engine.next step).Holding workspace (engine.latestAfter last step) := by
  have hworkspace := engine.next_workspace step
  have hremembers := next_remembers h.remembers step
  cases step with
  | handled request =>
      have hsettles := handle_settles h.remembers request
      rcases hanswer : (engine.handle request).1 with failure | value
      · simp only [Settles, hanswer] at hsettles
        simp only [latestAfter, hanswer]
        exact h.of_graph_eq hworkspace hremembers hsettles
      · simp only [Settles, hanswer] at hsettles
        simp only [latestAfter, hanswer]
        exact h.of_leaves hworkspace hremembers hsettles
  | outOfTime operation inquiry questions => exact h.of_graph_eq hworkspace hremembers rfl

/-- After every run, the graph built last belongs to the latest request for a graph. -/
theorem Holding.follow (h : engine.Holding workspace last) (steps : List Step) :
    (engine.follow steps).Holding workspace (engine.latest last steps) := by
  induction steps generalizing engine last with
  | nil => exact h
  | cons step rest ih => exact ih (h.next step)

end Holding

/-- Two engines that differ in what they remember of files only, and remember it right. -/
structure Agree (left right : Engine) : Prop where
  workspace_eq : left.workspace = right.workspace
  graph_eq : left.graph = right.graph
  left_remembers : left.Remembers
  right_remembers : right.Remembers

/-- Two outcomes with the same answer and with engines that agree. -/
def Same {α : Type} (left right : Except Failure α × Engine) : Prop :=
  left.1 = right.1 ∧ left.2.Agree right.2

section Agree

variable {left right : Engine}

/-- The same outcome is one answer with two engines that agree. -/
theorem Same.exists_eq {α : Type} {left right : Except Failure α × Engine} (h : Same left right) :
    ∃ result later later', left = (result, later) ∧ right = (result, later') ∧
      later.Agree later' :=
  ⟨right.1, left.2, right.2, Prod.ext h.1 rfl, rfl, h.2⟩

/-- Engines that agree give the same answer to an inquiry. -/
theorem Agree.inquire (h : left.Agree right) {α : Type} (inquiry : Inquiry α) :
    Same (left.inquire inquiry) (right.inquire inquiry) := by
  obtain ⟨hleft, hleft'⟩ := inquire_remembers h.left_remembers inquiry
  obtain ⟨hright, hright'⟩ := inquire_remembers h.right_remembers inquiry
  exact ⟨by rw [hleft, hright, h.workspace_eq], h.workspace_eq, h.graph_eq, hleft', hright'⟩

/-- Engines that agree resolve paths in the same way. -/
theorem Agree.at_path (h : left.Agree right) {α : Type} (path : Path)
    {next next' : Path → Except Failure α × Engine}
    (hnext : ∀ path, Same (next path) (next' path)) :
    Same (left.atPath path next) (right.atPath path next') := by
  unfold atPath
  rw [h.workspace_eq]
  split
  · exact hnext _
  · exact ⟨rfl, h⟩

/-- Engines that agree give the same graph. -/
theorem Agree.dependency_graph (h : left.Agree right) (query : GraphQuery) :
    Same (left.dependencyGraph query) (right.dependencyGraph query) := by
  obtain ⟨result, later, later', hleft, hright, hagree⟩ :=
    (h.inquire (Graph.build right.workspace query)).exists_eq
  unfold dependencyGraph
  rw [h.workspace_eq, h.graph_eq, hleft, hright]
  -- A new graph takes the place of the last one in both engines.
  cases result with
  | error failure =>
      rcases right.graph with _ | ⟨key, graph⟩
      · exact ⟨rfl, hagree⟩
      · dsimp only
        split
        · exact ⟨rfl, h⟩
        · exact ⟨rfl, hagree⟩
  | ok built =>
      have hbuilt : Agree { later with graph := some (query.key, built) }
          { later' with graph := some (query.key, built) } :=
        ⟨hagree.workspace_eq, rfl, hagree.left_remembers, hagree.right_remembers⟩
      rcases right.graph with _ | ⟨key, graph⟩
      · exact ⟨rfl, hbuilt⟩
      · dsimp only
        split
        · exact ⟨rfl, h⟩
        · exact ⟨rfl, hbuilt⟩

/-- Engines that agree give the same answer from the current graph. -/
theorem Agree.with_graph (h : left.Agree right) {α : Type} (answer : Graph → α) :
    Same (left.withGraph answer) (right.withGraph answer) := by
  have hcurrent : Same left.currentGraph right.currentGraph := by
    unfold currentGraph
    rw [h.graph_eq]
    split
    · exact ⟨rfl, h⟩
    · exact h.dependency_graph {}
  obtain ⟨result, later, later', hleft, hright, hagree⟩ := hcurrent.exists_eq
  unfold withGraph
  rw [hleft, hright]
  cases result with
  | error failure => exact ⟨rfl, hagree⟩
  | ok graph => exact ⟨rfl, hagree⟩

/-- Engines that agree give the same unused exports. -/
theorem Agree.unused_exports (h : left.Agree right) (query : GraphQuery) :
    Same (left.unusedExports query) (right.unusedExports query) := by
  obtain ⟨result, later, later', hleft, hright, hagree⟩ := (h.dependency_graph query).exists_eq
  unfold unusedExports
  rw [hleft, hright]
  cases result with
  | error failure => exact ⟨rfl, hagree⟩
  | ok graph =>
      dsimp only
      rw [hagree.workspace_eq]
      exact hagree.inquire _

/-- Engines that agree give the same answer to every request, and still agree. -/
theorem Agree.handle (h : left.Agree right) (request : Request) :
    Same (left.handle request) (right.handle request) := by
  have hworkspace := h.workspace_eq
  unfold Engine.handle
  rw [hworkspace]
  cases request with
  | outline path | context path => exact h.at_path path fun _ => h.inquire _
  | dependencies path | dependents path | edgeCounts path =>
      exact h.at_path path fun _ => h.with_graph _
  | cycles | mostReferenced => exact h.with_graph _
  | dependencyGraph query => exact h.dependency_graph query
  | unusedExports query => exact h.unused_exports query
  | clear =>
      exact ⟨rfl, hworkspace, rfl, Cache.faithful_empty _ _, Cache.faithful_empty _ _⟩
  | invalidate path =>
      exact h.at_path path fun path => ⟨rfl, hworkspace, rfl,
        Cache.Faithful.invalidate h.left_remembers path,
        Cache.Faithful.invalidate h.right_remembers path⟩
  | _ => exact h.inquire _

/-- Engines that agree still do so after a step. -/
theorem Agree.next (h : left.Agree right) (step : Step) :
    (left.next step).Agree (right.next step) := by
  cases step with
  | handled request => exact (h.handle request).2
  | outOfTime operation inquiry questions => exact (h.inquire _).2

/-- Engines that agree still do so after several steps. -/
theorem Agree.follow (h : left.Agree right) (steps : List Step) :
    (left.follow steps).Agree (right.follow steps) := by
  induction steps generalizing left right with
  | nil => exact h
  | cons step rest ih => exact ih (h.next step)

end Agree

/-- An engine agrees with itself before a step that fails. -/
theorem agree_of_fails (h : engine.Remembers) {step : Step} (hfails : engine.Fails step) :
    (engine.next step).Agree engine := by
  refine ⟨engine.next_workspace step, ?_, next_remembers h step, h⟩
  cases step with
  | handled request =>
      obtain ⟨failure, hfailure⟩ := hfails
      have hsettles := handle_settles h request
      simp only [Settles, hfailure] at hsettles
      exact hsettles
  | outOfTime operation inquiry questions => rfl

/-- After every run, the requests that are not for a graph of their own are answered from the graph
that an engine without a history builds, whatever the time budgets, for the latest request for a
graph that was answered since the last forgetting; if there is none, from the graph that it builds
in time for a request without conditions, which then counts as the latest one. A step that fails
changes none of the later answers. -/
theorem latest_graph_used (workspace : Workspace) (steps : List Step) :
    let engine := (fresh workspace).follow steps
    (∀ key, (fresh workspace).latest none steps = some key →
      ∃ graph, freshGraph workspace key = .ok graph ∧ engine.AnswersFrom (.ok graph)) ∧
    ((fresh workspace).latest none steps = none →
      engine.AnswersFrom ((fresh workspace).handle (.dependencyGraph {})).1) ∧
    (∀ graph, ((fresh workspace).handle (.dependencyGraph {})).1 = .ok graph →
      freshGraph workspace {} = .ok graph) ∧
    (∀ step, engine.Fails step → ∀ later request,
      (((engine.next step).follow later).handle request).1 =
        ((engine.follow later).handle request).1) := by
  have hholding := (holding_fresh workspace).follow steps
  have hcurrent := answers_from_current ((fresh workspace).follow steps)
  have hdefault := handle_graph_fresh workspace {}
  refine ⟨?_, ?_, ?_, ?_⟩
  · intro key hlatest
    obtain ⟨slot, hslot, rfl⟩ := Option.map_eq_some_iff.mp (hholding.key_eq.trans hlatest)
    refine ⟨slot.2, hholding.graph_eq _ _ hslot, ?_⟩
    simpa only [currentGraph, hslot] using hcurrent
  · intro hlatest
    have hnone := Option.map_eq_none_iff.mp (hholding.key_eq.trans hlatest)
    simp only [currentGraph, hnone] at hcurrent
    rw [dependency_graph_of_none hholding.remembers hnone, hholding.workspace_eq] at hcurrent
    rw [hdefault]
    exact hcurrent
  · intro graph hgraph
    have hbuilt : (Graph.build workspace {}).eval workspace.answer = .ok graph :=
      hdefault.symm.trans hgraph
    exact @fresh_graph_of_build workspace {} graph hbuilt
  · intro step hfails later request
    exact (((agree_of_fails hholding.remembers hfails).follow later).handle request).1

/-- After a request for a graph of two files and a build that runs out of time, answers come from
the graph of the request. -/
theorem latest_graph_two_files :
    ∃ graph, freshGraph GraphBuild.twoFiles { maxDepth := some 0 } = .ok graph ∧
      ((fresh GraphBuild.twoFiles).follow
        [.handled (.dependencyGraph { maxDepth := some 0, timeout := some 5 }),
          .outOfTime .dependencies (Graph.build GraphBuild.twoFiles {}) 1]).AnswersFrom
            (.ok graph) := by
  have hseeds : GraphBuild.twoFiles.eligible {} = .ok [⟨"/ws/a.ts"⟩, ⟨"/ws/b.ts"⟩] := rfl
  have hcheck : (GraphBuild.deadlineOf GraphBuild.twoFiles
      { maxDepth := some 0, timeout := some 5 }).check = .ok () := rfl
  obtain ⟨graph, hgraph, _⟩ := @GraphBuild.build_declared GraphBuild.twoFiles
    GraphBuild.twoFiles.answer _ { maxDepth := some 0, timeout := some 5 } hseeds (Or.inl hcheck)
  have hanswer : ((fresh GraphBuild.twoFiles).handle
      (.dependencyGraph { maxDepth := some 0, timeout := some 5 })).1 = .ok graph :=
    (handle_graph_fresh _ _).trans hgraph
  refine (latest_graph_used GraphBuild.twoFiles _).1 { maxDepth := some 0 } ?_
  simp only [latest, latestAfter, hanswer]
  rfl

end Engine

end CodeAtlas
