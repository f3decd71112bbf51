import CodeAtlas.Engine
import CodeAtlas.Proofs.Inquiry.Cache
import CodeAtlas.Proofs.Query.Asks

/-!
# How requests are handled

The requests that use the graph of an engine, taken apart: `dependency_graph_cases` says everything
that asking for a graph can do. Read `handle_preserves` and `handle_inside` last: what inquiries,
graphs and forgetting keep, every request keeps, and it asks only about paths of the workspace.
-/

namespace CodeAtlas

/-- A question goes to a path that the workspace holds; the paths of other requests are resolved
first. -/
def Request.IsInside (workspace : Workspace) : Request → Prop
  | .ask question => workspace.Holds question.path
  | .directDependencies path => workspace.Holds path
  | _ => True

namespace Engine

/-- A graph that is asked for is the one built last, or else it is built: then the build may fail,
or the new graph takes the place of the last one. -/
theorem dependency_graph_cases (engine : Engine) (query : GraphQuery) :
    (∃ graph, engine.graph = some (query.key, graph) ∧
      engine.dependencyGraph query = (.ok graph, engine)) ∨
    (∃ failure later,
      engine.inquire (Graph.build engine.workspace query) = (.error failure, later) ∧
      engine.dependencyGraph query = (.error failure, later)) ∨
    (∃ graph later, engine.inquire (Graph.build engine.workspace query) = (.ok graph, later) ∧
      engine.dependencyGraph query =
        (.ok graph, { later with graph := some (query.key, graph) })) := by
  unfold dependencyGraph
  dsimp only
  rcases hslot : engine.graph with _ | ⟨key, graph⟩
  · rcases hbuilt : engine.inquire (Graph.build engine.workspace query) with
      ⟨failure | graph, later⟩
    · exact Or.inr (Or.inl ⟨failure, later, rfl, rfl⟩)
    · exact Or.inr (Or.inr ⟨graph, later, rfl, rfl⟩)
  · by_cases hkey : key = query.key
    · exact Or.inl ⟨graph, by rw [hkey], by simp [hkey]⟩
    · rcases hbuilt : engine.inquire (Graph.build engine.workspace query) with
        ⟨failure | graph, later⟩
      · exact Or.inr (Or.inl ⟨failure, later, rfl, by simp [hkey]⟩)
      · exact Or.inr (Or.inr ⟨graph, later, rfl, by simp [hkey]⟩)

/-- Unused exports are looked for in the graph of the request, if that can be built. -/
theorem unused_exports_cases (engine : Engine) (query : GraphQuery) :
    (∃ failure later, engine.dependencyGraph query = (.error failure, later) ∧
      engine.unusedExports query = (.error failure, later)) ∨
    (∃ graph later, engine.dependencyGraph query = (.ok graph, later) ∧
      engine.unusedExports query =
        later.inquire (UnusedExport.find later.workspace graph query)) := by
  unfold unusedExports
  rcases engine.dependencyGraph query with ⟨failure | graph, later⟩
  · exact Or.inl ⟨failure, later, rfl, rfl⟩
  · exact Or.inr ⟨graph, later, rfl, rfl⟩

/-- A request that uses the graph built last leaves the engine as it is, or as a request for the
graph without conditions leaves it. -/
theorem with_graph_cases (engine : Engine) {α : Type} (answer : Graph → α) :
    (engine.withGraph answer).2 = engine ∨
      (engine.withGraph answer).2 = (engine.dependencyGraph {}).2 := by
  unfold withGraph currentGraph
  rcases engine.graph with _ | ⟨key, graph⟩
  · rcases engine.dependencyGraph {} with ⟨failure | graph, later⟩
    · exact Or.inr rfl
    · exact Or.inr rfl
  · exact Or.inl rfl

/-- A request for a path keeps what the request for the resolved path keeps. -/
theorem at_path_preserves {motive : Engine → Prop} {engine : Engine} (h : motive engine) {α : Type}
    (path : Path) {next : Path → Except Failure α × Engine}
    (hnext : ∀ path : Path, engine.workspace.Holds path → motive (next path).2) :
    motive (engine.atPath path next).2 := by
  unfold atPath
  split
  · next resolved hresolve => exact hnext resolved (Workspace.resolve_holds hresolve)
  · exact h

section Preserve

variable {motive : Engine → Prop}
  (hinquire : ∀ {engine : Engine} {α : Type} (inquiry : Inquiry α), motive engine →
    motive (engine.inquire inquiry).2)
  (hgraph : ∀ {engine : Engine} (slot : Option (GraphQuery × Graph)), motive engine →
    motive { engine with graph := slot })

include hinquire hgraph

/-- Asking for a graph keeps what inquiries and other graphs keep. -/
theorem dependency_graph_preserves {engine : Engine} (h : motive engine) (query : GraphQuery) :
    motive (engine.dependencyGraph query).2 := by
  have hlater := hinquire (Graph.build engine.workspace query) h
  rcases engine.dependency_graph_cases query with ⟨_, _, heq⟩ | ⟨_, _, hbuilt, heq⟩ |
    ⟨_, _, hbuilt, heq⟩
  · exact heq ▸ h
  · rw [hbuilt] at hlater
    exact heq ▸ hlater
  · rw [hbuilt] at hlater
    exact heq ▸ hgraph _ hlater

/-- What inquiries, other graphs and forgetting keep, every request keeps. -/
theorem handle_preserves
    (hclear : ∀ {engine : Engine}, motive engine → motive engine.clear)
    (hforget : ∀ {engine : Engine} (path : Path), motive engine → motive (engine.forget path))
    {engine : Engine} (h : motive engine) (request : Request) :
    motive (engine.handle request).2 := by
  have hbuild := fun query => dependency_graph_preserves hinquire hgraph h query
  have hlast : ∀ {α : Type} (answer : Graph → α), motive (engine.withGraph answer).2 := by
    intro α answer
    rcases engine.with_graph_cases answer with heq | heq
    · rwa [heq]
    · rw [heq]
      exact hbuild {}
  cases request with
  | outline path | context path => exact at_path_preserves h path fun _ _ => hinquire _ h
  | dependencies path | dependents path | edgeCounts path =>
      exact at_path_preserves h path fun _ _ => hlast _
  | cycles | mostReferenced => exact hlast _
  | dependencyGraph query => exact hbuild query
  | unusedExports query =>
      have hlater := hbuild query
      change motive (engine.unusedExports query).2
      rcases engine.unused_exports_cases query with ⟨_, _, hgraph, heq⟩ | ⟨_, _, hgraph, heq⟩
      · rw [hgraph] at hlater
        rwa [heq]
      · rw [hgraph] at hlater
        rw [heq]
        exact hinquire _ hlater
  | clear => exact hclear h
  | invalidate path => exact at_path_preserves h path fun path _ => hforget path h
  | _ => exact hinquire _ h

end Preserve

/-- A workspace holds all paths that it resolves. -/
theorem covers_holds (workspace : Workspace) : Covers workspace workspace.Holds :=
  Workspace.resolve_holds

/-- Inquiries of requests ask about paths that the workspace holds. So a request keeps what all such
inquiries, the graphs and forgetting keep. -/
theorem handle_inside {motive : Engine → Prop} {engine : Engine} (h : motive engine)
    (hinquire : ∀ {α : Type} {inquiry : Inquiry α},
      (inquiry.Asks engine.workspace.Holds fun _ => True) → motive (engine.inquire inquiry).2)
    (hgraph : ∀ query, motive (engine.dependencyGraph query).2)
    (hunused : ∀ query, motive (engine.unusedExports query).2)
    (hclear : motive engine.clear) (hforget : ∀ path, motive (engine.forget path))
    {request : Request} (hinside : request.IsInside engine.workspace) :
    motive (engine.handle request).2 := by
  have hcovers : Covers engine.workspace engine.workspace.Holds := covers_holds engine.workspace
  have hlast : ∀ {α : Type} (answer : Graph → α), motive (engine.withGraph answer).2 := by
    intro α answer
    rcases engine.with_graph_cases answer with heq | heq
    · rwa [heq]
    · rw [heq]
      exact hgraph {}
  cases request with
  | search query => exact hinquire (Search.asks_find hcovers query)
  | outline path =>
      refine at_path_preserves h path fun path hpath => hinquire ?_
      exact (Inquiry.asks_get hpath).bind fun _ _ => Inquiry.asks_pure trivial
  | context path line size =>
      exact at_path_preserves h path fun path hpath => hinquire (Context.asks_around hpath line _)
  | references query => exact hinquire (Reference.asks_find hcovers query)
  | definition position => exact hinquire (Navigation.asks_definition hcovers position)
  | implementations position => exact hinquire (Navigation.asks_implementations hcovers position)
  | derivedClasses position => exact hinquire (Navigation.asks_derived_classes hcovers position)
  | typeHint position => exact hinquire (Hint.asks_of_position hcovers position)
  | dependencyGraph query => exact hgraph query
  | dependencies path | dependents path | edgeCounts path =>
      exact at_path_preserves h path fun _ _ => hlast _
  | cycles | mostReferenced => exact hlast _
  | unusedExports query => exact hunused query
  | directDependencies path =>
      have hpath : engine.workspace.Holds path := hinside
      exact hinquire ((Navigation.asks_direct_dependencies hpath).bind fun _ _ =>
        Inquiry.asks_of_except fun _ _ => trivial)
  | ask question =>
      have hpath : engine.workspace.Holds question.path := hinside
      exact hinquire (Inquiry.asks_get hpath).trivially
  | clear => exact hclear
  | invalidate path => exact at_path_preserves h path fun path _ => hforget path

/-- Asking for a graph leaves the workspace alone. -/
theorem dependency_graph_workspace (engine : Engine) (query : GraphQuery) :
    (engine.dependencyGraph query).2.workspace = engine.workspace :=
  dependency_graph_preserves (motive := fun later => later.workspace = engine.workspace)
    (fun _ h => h) (fun _ h => h) rfl query

/-- Answering a request leaves the workspace alone. -/
theorem handle_workspace (engine : Engine) (request : Request) :
    (engine.handle request).2.workspace = engine.workspace :=
  handle_preserves (motive := fun later => later.workspace = engine.workspace)
    (fun _ h => h) (fun _ h => h) (fun h => h) (fun _ h => h) rfl request

/-- Answering a request keeps symbols with their texts. -/
theorem handle_paired {engine : Engine} (h : engine.cache.Paired) (request : Request) :
    (engine.handle request).2.cache.Paired :=
  handle_preserves (motive := fun later => later.cache.Paired)
    (fun inquiry h => Inquiry.run_paired inquiry h) (fun _ h => h)
    (fun _ _ _ hentry => nomatch hentry) (fun path h => h.invalidate path) h request

end Engine

end CodeAtlas
