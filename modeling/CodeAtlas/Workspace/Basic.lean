import CodeAtlas.Language
import CodeAtlas.Symbol.Parser
import CodeAtlas.Workspace.Storage

/-!
# Workspaces

A root directory with its files, its configuration and the way its sources are read. Every path that
is worked with goes through `Workspace.resolve`, which keeps it inside the root.
-/

namespace CodeAtlas

/-- A workspace. -/
structure Workspace where
  root : Path
  storage : Storage
  config : Config := {}
  /-- How symbols are read; without it no file is supported. -/
  parser : Option SymbolParser := some SymbolParser.default

namespace Workspace

/-- The path as it is shown, relative to the root. -/
def relative (workspace : Workspace) (path : Path) : String :=
  path.shownBelow workspace.root

/-- The path inside the root that a path stands for. -/
def resolve (workspace : Workspace) (path : Path) : Except Failure Path :=
  workspace.storage.resolve workspace.root path

/-- A workspace holds the plain paths inside its root. -/
def Holds (workspace : Workspace) (path : Path) : Prop :=
  path.IsPlain ∧ path.startsWith workspace.root = true

/-- Whatever a path stands for is held by the workspace. -/
theorem resolve_holds {workspace : Workspace} {path resolved : Path}
    (h : workspace.resolve path = .ok resolved) : workspace.Holds resolved :=
  ⟨Storage.resolve_plain h, Storage.starts_with_of_resolve h⟩

/-- Whether a file is in a language that can be read. -/
def supports (workspace : Workspace) (path : Path) : Bool :=
  workspace.parser.isSome && Language.supports path

/-- The filter of a request. -/
def filter (workspace : Workspace) (scope : Scope) : Except Failure GlobFilter :=
  (GlobFilter.ofScope scope workspace.config.scope).mapError .badGlob

/-- Whether a listed file is selected. -/
def selects (workspace : Workspace) (filter : GlobFilter) (path : Path) : Bool :=
  workspace.supports path && filter.accepts (workspace.relative path).toList

/-- The supported files that a scope selects, in the order of traversal, each once. -/
def eligible (workspace : Workspace) (scope : Scope) : Except Failure (List Path) := do
  let filter ← workspace.filter scope
  let selected := workspace.storage.listing.filter (workspace.selects filter)
  pure (selected.filterMap fun path => (workspace.resolve path).toOption).eraseDups

/-- The selected files are the listed ones that the filter accepts, as they are spelled plainly. -/
theorem mem_eligible {workspace : Workspace} {scope : Scope} {files : List Path} {path : Path}
    (h : workspace.eligible scope = .ok files) :
    path ∈ files ↔ ∃ filter, workspace.filter scope = .ok filter ∧
      ∃ listed ∈ workspace.storage.listing, workspace.selects filter listed = true ∧
        workspace.resolve listed = .ok path := by
  unfold eligible at h
  cases hfilter : workspace.filter scope with
  | error failure =>
      rw [hfilter] at h
      contradiction
  | ok filter =>
      rw [hfilter] at h
      obtain rfl := Except.ok.inj h
      simp only [List.mem_eraseDups, List.mem_filterMap, List.mem_filter, Except.ok.injEq,
        exists_eq_left']
      refine exists_congr fun listed => ?_
      cases workspace.resolve listed <;> simp [Except.toOption, and_assoc]

/-- The workspace holds the selected files. -/
theorem eligible_holds {workspace : Workspace} {scope : Scope} {files : List Path} {path : Path}
    (h : workspace.eligible scope = .ok files) (hpath : path ∈ files) : workspace.Holds path := by
  obtain ⟨_, _, _, _, _, hresolve⟩ := (mem_eligible h).mp hpath
  exact resolve_holds hresolve

end Workspace

end CodeAtlas
