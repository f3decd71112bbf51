import CodeAtlas.Proofs.Engine.Handle
import CodeAtlas.Proofs.Graph.Declared
import CodeAtlas.Proofs.Symbol.Located

/-!
# What an engine remembers does not show

Read `Event` and `Disciplined` first: the files of an engine change behind its back, and each change
is announced before the next query. `Engine.InStep` is the invariant of such a run. While it holds
and nothing is pending, an engine answers as one that has not answered anything yet.
-/

namespace CodeAtlas

/-- Something that happens to an engine. -/
inductive Event where
  /-- The file at a path is created, changed or deleted, and the engine is not told. -/
  | change (path : Path) (storage : Storage)
  /-- A request is answered. -/
  | request (request : Request)

/-- Whether a request only makes the engine forget. -/
def Request.isForgetting : Request → Bool
  | .clear | .invalidate _ => true
  | _ => false

/-- Whether a request is answered from the graph built last, whatever that was built for. -/
def Request.usesLastGraph : Request → Bool
  | .dependencies _ | .dependents _ | .edgeCounts _ | .cycles | .mostReferenced _ => true
  | _ => false

namespace Engine

/-- The engine after an event. -/
def after (engine : Engine) : Event → Engine
  | .change _ storage => { engine with workspace := engine.workspace.withStorage storage }
  | .request request => (engine.handle request).2

/-- The engine after several events. -/
def run (engine : Engine) (events : List Event) : Engine :=
  events.foldl after engine

/-- The changed paths that have not been announced after an event. -/
def pendingAfter (workspace : Workspace) (pending : List Path) : Event → List Path
  | .change path _ => path :: pending
  | .request .clear => []
  | .request (.invalidate path) =>
    match workspace.resolve path with
    | .ok resolved => pending.filter (· ≠ resolved)
    | .error _ => pending
  | .request _ => pending

/-- A change shows only at its path, and only forgetting is asked for while a change is pending. -/
def Allowed (workspace : Workspace) (pending : List Path) : Event → Prop
  | .change path storage => workspace.ChangesOnly path storage
  | .request request =>
    request.IsInside workspace ∧ (request.isForgetting = false → pending = [])

/-- All events are allowed, and no change is pending at the end. -/
def Disciplined (engine : Engine) (pending : List Path) : List Event → Prop
  | [] => pending = []
  | event :: rest => Allowed engine.workspace pending event ∧
    Disciplined (engine.after event) (pendingAfter engine.workspace pending event) rest

/-- The cache lags behind the files at pending paths only, and if there are none, the graph built
last is one of the files as they are. -/
structure InStep (engine : Engine) (pending : List Path) : Prop where
  cache : engine.cache.UpToDate engine.workspace pending
  graph : pending = [] → ∀ key graph, engine.graph = some (key, graph) →
    ∃ query : GraphQuery, query.key = key ∧
      (Graph.build engine.workspace query).eval engine.workspace.answer = .ok graph

/-- An engine that has not answered anything is in step. -/
theorem in_step_fresh (workspace : Workspace) : (fresh workspace).InStep [] :=
  ⟨Cache.up_to_date_empty workspace [], fun _ _ _ h => nomatch h⟩

section Answer

variable {engine : Engine} (hfits : engine.workspace.Fits) (h : engine.InStep [])

include hfits h

/-- An inquiry is answered from the files as they are, and the engine stays in step. -/
theorem inquire_in_step {α : Type} {gives : α → Prop} {inquiry : Inquiry α}
    (hasks : inquiry.Asks engine.workspace.Holds gives) :
    (engine.inquire inquiry).1 = inquiry.eval engine.workspace.answer ∧
      (engine.inquire inquiry).2.InStep [] := by
  obtain ⟨hanswer, hcache⟩ := Inquiry.run_up_to_date hfits hasks h.cache
  exact ⟨hanswer, hcache, h.graph⟩

/-- A graph that is given, is that of the files as they are for some request with the same key, and
the engine stays in step. It is that of this very request, if there is time for it. -/
theorem dependency_graph_in_step (query : GraphQuery) :
    (engine.dependencyGraph query).2.InStep [] ∧
    (∀ graph, (engine.dependencyGraph query).1 = .ok graph → ∃ other : GraphQuery,
      other.key = query.key ∧
      (Graph.build engine.workspace other).eval engine.workspace.answer = .ok graph) ∧
    ((Graph.build engine.workspace query).eval engine.workspace.answer ≠
        .error (.timeout .dependencies) →
      (engine.dependencyGraph query).1 =
        (Graph.build engine.workspace query).eval engine.workspace.answer) := by
  obtain ⟨hanswer, hstep⟩ :=
    inquire_in_step hfits h (Graph.asks_build (covers_holds engine.workspace) query)
  have hworkspace : (engine.inquire (Graph.build engine.workspace query)).2.workspace =
      engine.workspace := rfl
  rcases engine.dependency_graph_cases query with ⟨graph, hslot, heq⟩ |
    ⟨failure, later, hbuilt, heq⟩ | ⟨graph, later, hbuilt, heq⟩
  · -- The graph built last may be that of a request with another time budget.
    obtain ⟨other, hkey, hgraph⟩ := h.graph rfl _ _ hslot
    rw [heq]
    refine ⟨h, fun found hfound => ⟨other, hkey, Except.ok.inj hfound ▸ hgraph⟩, fun hne => ?_⟩
    exact (GraphBuild.build_of_key_eq hkey hgraph hne).symm
  · rw [hbuilt] at hanswer hstep
    rw [heq]
    exact ⟨hstep, fun _ hfound => (nomatch hfound), fun _ => hanswer⟩
  · rw [hbuilt] at hanswer hstep hworkspace
    dsimp only at hworkspace
    rw [heq]
    refine ⟨⟨hstep.cache, fun _ key found hfound => ?_⟩,
      fun found hfound => ⟨query, rfl, ?_⟩, fun _ => hanswer⟩
    · obtain ⟨rfl, rfl⟩ := Prod.mk.inj (Option.some.inj hfound)
      exact ⟨query, rfl, by rw [hworkspace, ← hanswer]⟩
    · rw [← hanswer, Except.ok.inj hfound]

/-- Looking for unused exports asks for the graph and then for the symbols of its files. -/
theorem unused_exports_in_step (query : GraphQuery) :
    (engine.unusedExports query).2.InStep [] ∧
    ((Graph.build engine.workspace query).eval engine.workspace.answer ≠
        .error (.timeout .dependencies) →
      (engine.unusedExports query).1 = (do
        let graph ← (Graph.build engine.workspace query).eval engine.workspace.answer
        (UnusedExport.find engine.workspace graph query).eval engine.workspace.answer)) := by
  obtain ⟨hstep, hbuilt, hanswer⟩ := dependency_graph_in_step hfits h query
  have hworkspace := engine.dependency_graph_workspace query
  rcases engine.unused_exports_cases query with ⟨failure, later, hgraph, heq⟩ |
    ⟨graph, later, hgraph, heq⟩
  · rw [hgraph] at hanswer hstep
    rw [heq]
    exact ⟨hstep, fun hne => by rw [← hanswer hne]; rfl⟩
  · rw [hgraph] at hanswer hstep hworkspace hbuilt
    dsimp only at hstep hworkspace
    obtain ⟨other, _, hother⟩ := hbuilt graph rfl
    -- Symbols are asked for the nodes of the graph only, and the workspace holds these.
    have hasks : (UnusedExport.find engine.workspace graph query).Asks later.workspace.Holds
        fun _ => True := by
      rw [hworkspace]
      exact UnusedExport.asks_find (fun _ => GraphBuild.node_holds_of_build hother) query
    obtain ⟨hfound, hlater⟩ := inquire_in_step (hworkspace ▸ hfits) hstep hasks
    rw [hworkspace] at hfound
    rw [heq, hworkspace]
    refine ⟨hlater, fun hne => ?_⟩
    rw [← hanswer hne]
    exact hfound

/-- Answering a request leaves an engine in step. -/
theorem handle_in_step {request : Request} (hinside : request.IsInside engine.workspace) :
    (engine.handle request).2.InStep [] := by
  refine handle_inside (motive := fun later => later.InStep []) h ?_ ?_ ?_ ?_ ?_ hinside
  · exact fun hasks => (inquire_in_step hfits h hasks).2
  · exact fun query => (dependency_graph_in_step hfits h query).1
  · exact fun query => (unused_exports_in_step hfits h query).1
  · exact ⟨Cache.up_to_date_empty _ _, fun _ _ _ hgraph => nomatch hgraph⟩
  · exact fun path => ⟨h.cache.invalidate path, fun _ _ _ hgraph => nomatch hgraph⟩

/-- An inquiry is answered as by an engine that has not answered anything yet. -/
theorem inquire_eq_fresh {α : Type} {inquiry : Inquiry α}
    (hasks : inquiry.Asks engine.workspace.Holds fun _ => True) :
    (engine.inquire inquiry).1 = ((fresh engine.workspace).inquire inquiry).1 := by
  have hfresh : (fresh engine.workspace).workspace.Fits := hfits
  rw [(inquire_in_step hfits h hasks).1]
  exact (inquire_in_step hfresh (in_step_fresh engine.workspace) hasks).1.symm

omit hfits h in
/-- A request for a path is answered as by such an engine, if it is so for the resolved path. -/
theorem at_path_eq_fresh {α : Type} (path : Path) {next next' : Path → Except Failure α × Engine}
    (hnext : ∀ path : Path, engine.workspace.Holds path → (next path).1 = (next' path).1) :
    (engine.atPath path next).1 = ((fresh engine.workspace).atPath path next').1 := by
  have hworkspace : (fresh engine.workspace).workspace = engine.workspace := rfl
  unfold atPath
  rw [hworkspace]
  split
  · next resolved hresolve => exact hnext resolved (Workspace.resolve_holds hresolve)
  · rfl

omit h in
/-- An engine that has not answered anything builds the graph that it is asked for. -/
theorem dependency_graph_fresh (query : GraphQuery) :
    ((fresh engine.workspace).dependencyGraph query).1 =
      (Graph.build engine.workspace query).eval engine.workspace.answer := by
  have hfresh : (fresh engine.workspace).workspace.Fits := hfits
  have hanswer : ((fresh engine.workspace).inquire (Graph.build engine.workspace query)).1 =
      (Graph.build engine.workspace query).eval engine.workspace.answer :=
    (inquire_in_step hfresh (in_step_fresh engine.workspace)
      (Graph.asks_build (covers_holds engine.workspace) query)).1
  rcases (fresh engine.workspace).dependency_graph_cases query with ⟨graph, hslot, _⟩ |
    ⟨failure, later, hbuilt, heq⟩ | ⟨graph, later, hbuilt, heq⟩
  · exact nomatch hslot
  · rw [heq, ← hanswer]
    exact (congrArg Prod.fst hbuilt).symm
  · rw [heq, ← hanswer]
    exact (congrArg Prod.fst hbuilt).symm

/-- A graph is given as by an engine that has not answered anything yet, if there is time for it. -/
theorem dependency_graph_eq_fresh (query : GraphQuery)
    (hne : ((fresh engine.workspace).dependencyGraph query).1 ≠
      .error (.timeout .dependencies)) :
    (engine.dependencyGraph query).1 = ((fresh engine.workspace).dependencyGraph query).1 := by
  rw [dependency_graph_fresh hfits] at hne ⊢
  exact (dependency_graph_in_step hfits h query).2.2 hne

/-- Unused exports are given as by an engine that has not answered anything yet, if there is time
for the graph. -/
theorem unused_exports_eq_fresh (query : GraphQuery)
    (hne : ((fresh engine.workspace).unusedExports query).1 ≠ .error (.timeout .dependencies)) :
    (engine.unusedExports query).1 = ((fresh engine.workspace).unusedExports query).1 := by
  have hbuild : (Graph.build engine.workspace query).eval engine.workspace.answer ≠
      .error (.timeout .dependencies) := by
    rw [← dependency_graph_fresh hfits]
    intro htimeout
    apply hne
    rcases (fresh engine.workspace).unused_exports_cases query with ⟨failure, later, hgraph, heq⟩ |
      ⟨graph, later, hgraph, _⟩
    · rw [hgraph] at htimeout
      rw [heq, Except.error.inj htimeout]
    · rw [hgraph] at htimeout
      contradiction
  have hfresh : (fresh engine.workspace).workspace.Fits := hfits
  rw [(unused_exports_in_step hfits h query).2 hbuild]
  exact ((unused_exports_in_step hfresh (in_step_fresh engine.workspace) query).2 hbuild).symm

/-- A query is answered as by an engine that has not answered anything yet, unless it is answered
from the graph built last or runs out of time. -/
theorem handle_eq_fresh {request : Request}
    (hinside : request.IsInside engine.workspace)
    (hlast : request.usesLastGraph = false)
    (hne : ((fresh engine.workspace).handle request).1 ≠ .error (.timeout .dependencies)) :
    (engine.handle request).1 = ((fresh engine.workspace).handle request).1 := by
  have hcovers : Covers engine.workspace engine.workspace.Holds := covers_holds engine.workspace
  cases request with
  | search query => exact inquire_eq_fresh hfits h (Search.asks_find hcovers query)
  | outline path =>
      refine at_path_eq_fresh path fun path hpath => inquire_eq_fresh hfits h ?_
      exact (Inquiry.asks_get hpath).bind fun _ _ => Inquiry.asks_pure trivial
  | context path line size =>
      exact at_path_eq_fresh path fun path hpath =>
        inquire_eq_fresh hfits h (Context.asks_around hpath line _)
  | references query => exact inquire_eq_fresh hfits h (Reference.asks_find hcovers query)
  | definition position =>
      exact inquire_eq_fresh hfits h (Navigation.asks_definition hcovers position)
  | implementations position =>
      exact inquire_eq_fresh hfits h (Navigation.asks_implementations hcovers position)
  | derivedClasses position =>
      exact inquire_eq_fresh hfits h (Navigation.asks_derived_classes hcovers position)
  | typeHint position => exact inquire_eq_fresh hfits h (Hint.asks_of_position hcovers position)
  | dependencyGraph query => exact dependency_graph_eq_fresh hfits h query hne
  | unusedExports query => exact unused_exports_eq_fresh hfits h query hne
  | directDependencies path =>
      have hpath : engine.workspace.Holds path := hinside
      exact inquire_eq_fresh hfits h ((Navigation.asks_direct_dependencies hpath).bind fun _ _ =>
        Inquiry.asks_of_except fun _ _ => trivial)
  | ask question =>
      have hpath : engine.workspace.Holds question.path := hinside
      exact inquire_eq_fresh hfits h (Inquiry.asks_get hpath).trivially
  | clear => rfl
  | invalidate path => exact at_path_eq_fresh path fun _ _ => rfl
  | dependencies | dependents | edgeCounts | cycles | mostReferenced => contradiction

end Answer

/-- A query makes no change known. -/
theorem pending_after_query {request : Request} (h : request.isForgetting = false)
    (workspace : Workspace) (pending : List Path) :
    pendingAfter workspace pending (.request request) = pending := by
  cases request <;> first | rfl | contradiction

/-- Forgetting leaves an engine in step with what is still pending. -/
theorem forget_in_step {engine : Engine} {pending : List Path} (h : engine.InStep pending)
    {request : Request} (hforgets : request.isForgetting = true) :
    (engine.handle request).2.InStep
      (pendingAfter engine.workspace pending (.request request)) := by
  cases request with
  | clear => exact ⟨Cache.up_to_date_empty _ _, fun _ _ _ hgraph => nomatch hgraph⟩
  | invalidate path =>
      -- A path that does not resolve is not forgotten, and what is pending stays so.
      rcases hresolve : engine.workspace.resolve path with failure | resolved
      · simp only [handle, atPath, pendingAfter, hresolve]
        exact h
      · simp only [handle, atPath, pendingAfter, hresolve]
        exact ⟨h.cache.invalidate resolved, fun _ _ _ hgraph => nomatch hgraph⟩
  | _ => contradiction

/-- Every allowed event leaves an engine in step with what is pending after it. -/
theorem after_in_step {engine : Engine} {pending : List Path} {event : Event}
    (hfits : engine.workspace.Fits) (h : engine.InStep pending)
    (hallowed : Allowed engine.workspace pending event) :
    (engine.after event).InStep (pendingAfter engine.workspace pending event) := by
  cases event with
  | change path storage => exact ⟨h.cache.change hallowed, fun hnone => nomatch hnone⟩
  | request request =>
      obtain ⟨hinside, hquery⟩ := hallowed
      -- Queries come only when nothing is pending; only forgetting settles pending paths.
      cases hforgets : request.isForgetting with
      | true => exact forget_in_step h hforgets
      | false =>
          rw [pending_after_query hforgets]
          obtain rfl := hquery hforgets
          exact handle_in_step hfits h hinside

/-- An event changes no parser. -/
theorem parser_after_eq (engine : Engine) (event : Event) :
    (engine.after event).workspace.parser = engine.workspace.parser := by
  cases event with
  | change path storage => rfl
  | request request => exact congrArg Workspace.parser (engine.handle_workspace request)

/-- A disciplined run ends with an engine in step and nothing pending. -/
theorem run_in_step {engine : Engine} {pending : List Path} {events : List Event}
    (hparser : ∀ parser, engine.workspace.parser = some parser → parser.Located)
    (h : engine.InStep pending) (hevents : Disciplined engine pending events) :
    (engine.run events).InStep [] := by
  induction events generalizing engine pending with
  | nil =>
      rw [Disciplined] at hevents
      exact hevents ▸ h
  | cons event rest ih =>
      obtain ⟨hallowed, hrest⟩ := hevents
      refine ih ?_ (after_in_step (Workspace.fits_of_located hparser) h hallowed) hrest
      rwa [engine.parser_after_eq event]

/-- Every event keeps symbols with their texts. -/
theorem run_paired {engine : Engine} (h : engine.cache.Paired) (events : List Event) :
    (engine.run events).cache.Paired := by
  induction events generalizing engine with
  | nil => exact h
  | cons event rest ih =>
      refine ih ?_
      cases event with
      | change path storage => exact h
      | request request => exact handle_paired h request

/-- A run changes no parser. -/
theorem parser_run_eq (engine : Engine) (events : List Event) :
    (engine.run events).workspace.parser = engine.workspace.parser := by
  induction events generalizing engine with
  | nil => rfl
  | cons event rest ih => exact (ih (engine.after event)).trans (engine.parser_after_eq event)

/-- A question for a text is answered from the cache. -/
theorem ask_content_eq (engine : Engine) (path : Path) :
    (engine.handle (.ask (.content path))).1 =
      (engine.cache.content engine.workspace path).1 :=
  congrArg Prod.fst (Inquiry.run_get engine.workspace (.content path) engine.cache)

/-- A text that was asked for remains the answer after a change at another path. -/
theorem stale_of_not_changes_only {engine : Engine} (h : engine.InStep []) {path : Path}
    {storage : Storage}
    (hresolve : (engine.workspace.withStorage storage).resolve path = .ok path)
    (hchange : ¬ engine.workspace.ChangesOnly path storage) :
    ∃ request : Request, request.IsInside engine.workspace ∧ request.usesLastGraph = false ∧
      let later := engine.run [.request request, .change path storage, .request (.invalidate path)]
      (later.handle request).1 ≠ ((fresh later.workspace).handle request).1 := by
  unfold Workspace.ChangesOnly at hchange
  push Not at hchange
  obtain ⟨other, hheld, hne, text, hread, hchanged⟩ := hchange
  -- The text at the other path is asked for before the change, so it is remembered there.
  refine ⟨.ask (.content other), hheld, rfl, ?_⟩
  have hbefore : (engine.cache.content engine.workspace other).1 = .ok text := by
    rw [(Cache.content_up_to_date h.cache hheld).1]
    exact Cache.content_eq_ok.mpr hread
  have hlater : engine.run [.request (.ask (.content other)), .change path storage,
        .request (.invalidate path)] =
      { engine with
        workspace := engine.workspace.withStorage storage
        cache := (engine.cache.content engine.workspace other).2.invalidate path
        graph := none } := by
    have hask : ((Inquiry.get (.content other)).run engine.workspace engine.cache).2 =
        (engine.cache.content engine.workspace other).2 :=
      congrArg Prod.snd (Inquiry.run_get engine.workspace (.content other) engine.cache)
    simp only [run, List.foldl, after, handle, inquire, atPath, hresolve, forget]
    exact congrArg (fun cache : Cache => (⟨engine.workspace.withStorage storage,
      cache.invalidate path, none⟩ : Engine)) hask
  -- Forgetting the changed path leaves what is remembered of the other one.
  have hkept : ((engine.cache.content engine.workspace other).2.invalidate path).contents.get?
      other = some text := by
    rw [Cache.invalidate, PathMap.get_erase, if_neg hne]
    exact Cache.content_remembered hbefore
  have hempty : Cache.UpToDate (engine.workspace.withStorage storage) [] {} :=
    Cache.up_to_date_empty _ _
  dsimp only
  rw [hlater, ask_content_eq, ask_content_eq, Cache.content_of_remembered hkept]
  intro heq
  exact hchanged (Cache.content_eq_ok.mp
    ((Cache.content_up_to_date hempty hheld).1.symm.trans heq.symm))

/-- After every run, symbols are remembered together with the texts that they come from. After a run
in which changes show only at their own paths and are announced, every query is answered as by an
engine that has not answered anything yet, unless it is answered from the graph built last or runs
out of time. A change that shows at another path is not noticed there: what is remembered of that
path remains the answer. -/
theorem run_transparent (workspace : Workspace)
    (hparser : ∀ parser, workspace.parser = some parser → parser.Located) (events : List Event) :
    let engine := (fresh workspace).run events
    engine.cache.Paired ∧
    (Disciplined (fresh workspace) [] events →
      (∀ request : Request, request.IsInside engine.workspace → request.usesLastGraph = false →
        ((fresh engine.workspace).handle request).1 ≠ .error (.timeout .dependencies) →
        (engine.handle request).1 = ((fresh engine.workspace).handle request).1) ∧
      (∀ path storage, (engine.workspace.withStorage storage).resolve path = .ok path →
        ¬ engine.workspace.ChangesOnly path storage →
        ∃ request : Request, request.IsInside engine.workspace ∧ request.usesLastGraph = false ∧
          let later :=
            engine.run [.request request, .change path storage, .request (.invalidate path)]
          (later.handle request).1 ≠ ((fresh later.workspace).handle request).1)) := by
  refine ⟨run_paired Cache.paired_empty events, fun hevents => ?_⟩
  have hstep := run_in_step hparser (in_step_fresh workspace) hevents
  have hfits : ((fresh workspace).run events).workspace.Fits := by
    refine Workspace.fits_of_located ?_
    rw [parser_run_eq]
    exact hparser
  exact ⟨fun request hinside hlast hne => handle_eq_fresh hfits hstep hinside hlast hne,
    fun path storage hresolve hchange => stale_of_not_changes_only hstep hresolve hchange⟩

/-- A file in memory. -/
def oneFile : MemoryFiles :=
  ⟨[(⟨"/ws/a.ts"⟩, some "one".toList)]⟩

/-- The workspace of this file. -/
def oneFileWorkspace : Workspace :=
  { root := ⟨"/ws"⟩, storage := oneFile.storage false }

/-- The file after an edit. -/
def oneFileEdited : Storage :=
  (oneFile.write ⟨"/ws/a.ts"⟩ (some "two".toList)).storage false

/-- Its line is looked at and edited, and the edit is announced. -/
def oneFileEvents : List Event :=
  [.request (.context ⟨"a.ts"⟩ 1 none), .change ⟨"/ws/a.ts"⟩ oneFileEdited,
    .request (.invalidate ⟨"a.ts"⟩)]

/-- After these events, the workspace has the edited file. -/
theorem one_file_run_workspace :
    ((fresh oneFileWorkspace).run oneFileEvents).workspace =
      oneFileWorkspace.withStorage oneFileEdited := by
  simp only [oneFileEvents, run, List.foldl, after, handle_workspace]
  rfl

/-- The edit is announced before the next query. -/
theorem one_file_disciplined : Disciplined (fresh oneFileWorkspace) [] oneFileEvents := by
  have hlooked : ((fresh oneFileWorkspace).after
      (.request (.context ⟨"a.ts"⟩ 1 none))).workspace = oneFileWorkspace :=
    handle_workspace _ _
  refine ⟨⟨trivial, fun _ => rfl⟩, ?_, ⟨trivial, nofun⟩, ?_⟩
  · rw [hlooked]
    exact MemoryFiles.write_changes_only rfl ⟨"/ws/a.ts"⟩ _
  · simp only [after, handle_workspace]
    rfl

/-- After the edit, the line is shown as by an engine that has not answered anything yet. -/
theorem run_transparent_one_file :
    Disciplined (fresh oneFileWorkspace) [] oneFileEvents ∧
    (((fresh oneFileWorkspace).run oneFileEvents).handle (.context ⟨"a.ts"⟩ 1 none)).1 =
      ((fresh (oneFileWorkspace.withStorage oneFileEdited)).handle
        (.context ⟨"a.ts"⟩ 1 none)).1 := by
  have hparser : ∀ parser, oneFileWorkspace.parser = some parser → parser.Located :=
    fun parser h => Option.some.inj h ▸ SymbolParser.default_located
  have hanswers := ((run_transparent oneFileWorkspace hparser oneFileEvents).2
    one_file_disciplined).1 (.context ⟨"a.ts"⟩ 1 none) trivial rfl
  rw [one_file_run_workspace] at hanswers
  exact ⟨one_file_disciplined, hanswers nofun⟩

end Engine

/-- Without a language, the first line of a text is shown without a symbol around it. -/
theorem Context.run_around {workspace : Workspace} {cache later : Cache} {path : Path} {text : Text}
    (hparser : workspace.parser = none) (size : Nat)
    (h : cache.content workspace path = (.ok text, later)) (hlines : Text.lines text ≠ []) :
    (Context.around workspace path 1 size).run workspace cache =
      (.ok (Context.window? (workspace.relative path) (Text.lines text) 1 size none), later) := by
  have hsymbols : later.ask workspace (.symbols path) =
      (.error (.misuse (.noLanguage (workspace.relative path))), later) := by
    simp [Cache.ask, Cache.syntaxOf, Workspace.parserFor, hparser]
  have hcontent : cache.ask workspace (.content path) = (.ok text, later) := h
  simp [Context.around, Context.consult, Inquiry.attempt, Inquiry.run, Bind.bind, Pure.pure,
    Inquiry.bind, hcontent, hsymbols, hlines, Inquiry.ofExcept]

namespace FileTree

/-- A file and a symbolic link to it. -/
def withLink (text : String) : FileTree :=
  .directory [("ws", .directory [("a.ts", .link ⟨"/ws/b.ts"⟩), ("b.ts", .file (some text.toList))])]

/-- The text of the file is read through the link. -/
theorem read_with_link (text : String) : (withLink text).read ⟨"/ws/a.ts"⟩ = .ok text.toList := by
  have hsteps : steps ⟨"/ws/a.ts"⟩ = [.current, .name "ws", .name "a.ts"] := by decide
  have htarget : steps ⟨"/ws/b.ts"⟩ = [.current, .name "ws", .name "b.ts"] := by decide
  have habsolute : (⟨"/ws/b.ts"⟩ : Path).isAbsolute = true := by decide
  simp [read, resolve, hsteps, htarget, habsolute, resolveFrom, withLink, at?, entry?, entries]

end FileTree

namespace Engine

/-- The workspace of a file and a symbolic link to it. -/
def linkWorkspace (text : String) : Workspace :=
  { root := ⟨"/ws"⟩, storage := (FileTree.withLink text).storage ⟨"/ws"⟩, parser := none }

/-- A path through a directory that is not there is not followed through its link. -/
theorem resolve_link (text : String) :
    (linkWorkspace text).resolve ⟨"x/../a.ts"⟩ = .ok ⟨"/ws/a.ts"⟩ := by
  have hjoin : (⟨"/ws"⟩ : Path).join ⟨"x/../a.ts"⟩ = ⟨"/ws/x/../a.ts"⟩ := by decide
  have hsteps : FileTree.steps ⟨"/ws/x/../a.ts"⟩ =
      [.current, .name "ws", .name "x", .parent, .name "a.ts"] := by decide
  have hreal : (FileTree.withLink text).realPath ⟨"/ws/x/../a.ts"⟩ = .error .noSuchFile := by
    simp [FileTree.realPath, FileTree.resolve, hsteps, FileTree.resolveFrom, FileTree.withLink,
      FileTree.at?, FileTree.entry?, FileTree.entries, Except.map]
  have hplain : (⟨"/ws/x/../a.ts"⟩ : Path).normalize = ⟨"/ws/a.ts"⟩ := by decide
  have hstarts : (⟨"/ws/a.ts"⟩ : Path).startsWith ⟨"/ws"⟩ = true := by decide
  simp [linkWorkspace, Workspace.resolve, Storage.resolve, FileTree.storage, hjoin, hreal, hplain,
    hstarts, Except.toOption]

/-- The file itself is found at its own path. -/
theorem resolve_target (text : String) :
    (linkWorkspace text).resolve ⟨"b.ts"⟩ = .ok ⟨"/ws/b.ts"⟩ := by
  have hjoin : (⟨"/ws"⟩ : Path).join ⟨"b.ts"⟩ = ⟨"/ws/b.ts"⟩ := by decide
  have hsteps : FileTree.steps ⟨"/ws/b.ts"⟩ = [.current, .name "ws", .name "b.ts"] := by decide
  have hreal : (FileTree.withLink text).realPath ⟨"/ws/b.ts"⟩ = .ok ⟨"/ws/b.ts"⟩ := by
    simp [FileTree.realPath, FileTree.resolve, hsteps, FileTree.resolveFrom, FileTree.withLink,
      FileTree.at?, FileTree.entry?, FileTree.entries, Except.map]
    rfl
  have hstarts : (⟨"/ws/b.ts"⟩ : Path).startsWith ⟨"/ws"⟩ = true := by decide
  simp [linkWorkspace, Workspace.resolve, Storage.resolve, FileTree.storage, hjoin, hreal,
    hstarts, Except.toOption]

/-- A look through the link shows the text that is remembered or else stored there. -/
theorem context_through_link {cache later : Cache} {stored : String} {text : Text}
    (hcontent : cache.content (linkWorkspace stored) ⟨"/ws/a.ts"⟩ = (.ok text, later))
    (hlines : Text.lines text ≠ []) :
    (⟨linkWorkspace stored, cache, none⟩ : Engine).handle (.context ⟨"x/../a.ts"⟩ 1 none) =
      (.ok (Context.window? ((linkWorkspace stored).relative ⟨"/ws/a.ts"⟩) (Text.lines text) 1
        (linkWorkspace stored).config.contextLines none), ⟨linkWorkspace stored, later, none⟩) := by
  have hparser : (linkWorkspace stored).parser = none := rfl
  simp only [handle, atPath, resolve_link, inquire, Option.getD]
  rw [Context.run_around hparser _ hcontent hlines]

/-- After the file was changed and this was announced, a look through the link still shows the
former text. -/
theorem stale_through_link :
    let engine := (fresh (linkWorkspace "one")).run
      [.request (.context ⟨"x/../a.ts"⟩ 1 none),
        .change ⟨"/ws/b.ts"⟩ ((FileTree.withLink "two").storage ⟨"/ws"⟩),
        .request (.invalidate ⟨"b.ts"⟩)]
    (engine.handle (.context ⟨"x/../a.ts"⟩ 1 none)).1 ≠
      ((fresh engine.workspace).handle (.context ⟨"x/../a.ts"⟩ 1 none)).1 := by
  have hread (text : String) : (linkWorkspace text).content ⟨"/ws/a.ts"⟩ = .ok text.toList :=
    Cache.content_eq_ok.mpr (FileTree.read_with_link text)
  have hfresh (text : String) : Cache.content (linkWorkspace text) ⟨"/ws/a.ts"⟩ {} =
      (.ok text.toList, { contents := [(⟨"/ws/a.ts"⟩, text.toList)], misses := 1 }) := by
    simp [Cache.content, hread, PathMap.put, PathMap.erase, Cache.miss]
  have hstale : Cache.content (linkWorkspace "two") ⟨"/ws/a.ts"⟩
      { contents := [(⟨"/ws/a.ts"⟩, "one".toList)], misses := 1 } =
      (.ok "one".toList,
        { contents := [(⟨"/ws/a.ts"⟩, "one".toList)], hits := 1, misses := 1 }) := rfl
  have hrun : (fresh (linkWorkspace "one")).run
      [.request (.context ⟨"x/../a.ts"⟩ 1 none),
        .change ⟨"/ws/b.ts"⟩ ((FileTree.withLink "two").storage ⟨"/ws"⟩),
        .request (.invalidate ⟨"b.ts"⟩)] =
      ⟨linkWorkspace "two", { contents := [(⟨"/ws/a.ts"⟩, "one".toList)], misses := 1 }, none⟩ := by
    have hlook : (fresh (linkWorkspace "one")).handle (.context ⟨"x/../a.ts"⟩ 1 none) = _ :=
      context_through_link (hfresh "one") (by decide)
    have hforget : (linkWorkspace "two").resolve ⟨"b.ts"⟩ = .ok ⟨"/ws/b.ts"⟩ := resolve_target "two"
    simp only [run, List.foldl, after, hlook]
    change ((⟨linkWorkspace "two", _, none⟩ : Engine).handle (.invalidate ⟨"b.ts"⟩)).2 = _
    simp only [handle, atPath, hforget, forget]
    rfl
  dsimp only
  rw [hrun, context_through_link hstale (by decide), fresh,
    context_through_link (hfresh "two") (by decide)]
  intro heq
  have hlines := congrArg (Option.map Context.lines) (Except.ok.inj heq)
  revert hlines
  decide

end Engine

end CodeAtlas
