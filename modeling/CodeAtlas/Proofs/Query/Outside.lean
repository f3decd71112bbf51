import CodeAtlas.Proofs.Workspace.Import
import CodeAtlas.Query.Hint
import CodeAtlas.Query.Unused
import CodeAtlas.Search.Basic

/-!
# Queries do not look outside

What a query asks does not depend on what reading a path outside the root would give. Queries look
at a workspace in few ways, and only where a specifier leads could depend on it
(`Workspace.resolve_import_outside`); so there is a lemma for each query that resolves specifiers,
and the others are the same by definition.
-/

namespace CodeAtlas

variable {workspace : Workspace} (read : Path → Except ReadFault Text)

namespace Search

theorem contexts_of_outside (size : Nat) (symbols : List Symbol) :
    contextsOf (workspace.withOutside read) size symbols = contextsOf workspace size symbols := by
  induction symbols with
  | nil => rfl
  | cons symbol rest ih =>
      rw [contextsOf, contextsOf, ih]
      rfl

theorem references_to_outside (scope : Scope) (deadline : Deadline) (room : Nat)
    (symbols : List Symbol) :
    referencesTo (workspace.withOutside read) scope deadline room symbols =
      referencesTo workspace scope deadline room symbols := by
  induction symbols generalizing room with
  | nil => rfl
  | cons symbol rest ih =>
      cases room with
      | zero => rfl
      | succ room =>
          simp only [referencesTo, ih]
          rfl

theorem find_outside (query : SearchQuery) :
    find (workspace.withOutside read) query = find workspace query := by
  have hmatching : ∀ matcher, findMatching (workspace.withOutside read) query matcher =
      findMatching workspace query matcher := by
    intro matcher
    unfold findMatching askedReferences
    simp only [contexts_of_outside, references_to_outside]
    rfl
  unfold find
  simp only [hmatching]
  rfl

end Search

variable (habsolute : workspace.root.isAbsolute = true) (hplain : workspace.root.IsPlain)

include habsolute hplain

namespace Navigation

theorem direct_dependencies_outside (file : Path) :
    directDependencies (workspace.withOutside read) file = directDependencies workspace file := by
  have htargets : ∀ specifiers, (workspace.withOutside read).internalTargets file specifiers false =
      workspace.internalTargets file specifiers false := by
    intro specifiers
    simp only [Workspace.internalTargets, Workspace.resolve_import_outside habsolute hplain]
  simp only [directDependencies, htargets]

theorem definition_of_outside (file : Path) (name : String) :
    definitionOf (workspace.withOutside read) file name = definitionOf workspace file name := by
  unfold definitionOf
  rw [direct_dependencies_outside read habsolute hplain]
  rfl

theorem definition_outside (position : Position) :
    definition (workspace.withOutside read) position = definition workspace position := by
  unfold definition
  simp only [definition_of_outside read habsolute hplain]
  rfl

theorem symbol_at_outside (position : Position) :
    symbolAt (workspace.withOutside read) position = symbolAt workspace position := by
  unfold symbolAt
  simp only [definition_of_outside read habsolute hplain]
  rfl

theorem implementations_outside (position : Position) :
    implementations (workspace.withOutside read) position = implementations workspace position := by
  unfold implementations
  rw [symbol_at_outside read habsolute hplain]
  rfl

theorem derived_classes_outside (position : Position) :
    derivedClasses (workspace.withOutside read) position = derivedClasses workspace position := by
  unfold derivedClasses
  rw [symbol_at_outside read habsolute hplain]
  rfl

end Navigation

theorem Hint.of_position_outside (position : Position) :
    ofPosition (workspace.withOutside read) position = ofPosition workspace position := by
  unfold ofPosition
  rw [Navigation.symbol_at_outside read habsolute hplain]

theorem Reference.find_outside (query : ReferenceQuery) :
    find (workspace.withOutside read) query = find workspace query := by
  have htarget : ∀ wanted, target (workspace.withOutside read) wanted = target workspace wanted := by
    intro wanted
    cases wanted with
    | symbol symbol => rfl
    | position position => exact Navigation.symbol_at_outside read habsolute hplain position
  unfold find
  rw [htarget]
  rfl

namespace GraphBuild

theorem scan_files_outside (withPackages : Bool) (files : List Path) :
    scanFiles (workspace.withOutside read) withPackages files =
      scanFiles workspace withPackages files := by
  have hscan : ∀ path module, scanOf (workspace.withOutside read) withPackages path module =
      scanOf workspace withPackages path module := by
    intro path module
    simp only [scanOf, Workspace.resolve_import_outside habsolute hplain]
    rfl
  induction files with
  | nil => rfl
  | cons file rest ih => simp only [scanFiles, ih, hscan]

theorem expand_outside (withPackages : Bool) (deadline : Deadline) (hops : Nat) (state : State) :
    expand (workspace.withOutside read) withPackages deadline hops state =
      expand workspace withPackages deadline hops state := by
  induction hops generalizing state with
  | zero =>
      unfold expand
      rw [scan_files_outside read habsolute hplain]
  | succ hops ih =>
      unfold expand
      simp only [scan_files_outside read habsolute hplain, ih]

end GraphBuild

theorem Graph.build_outside (query : GraphQuery) :
    build (workspace.withOutside read) query = build workspace query := by
  unfold build
  simp only [GraphBuild.expand_outside read habsolute hplain]
  rfl

end CodeAtlas
