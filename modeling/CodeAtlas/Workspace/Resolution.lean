import CodeAtlas.Workspace.Basic

/-!
# Resolving imports

The file that a module specifier names: relative to the importing file, relative to the root, in one
of the configured directories, or in an installed package. What leads to no file inside the root is
external.
-/

namespace CodeAtlas

/-- Where a specifier leads. -/
inductive Resolution where
  /-- To a file of the workspace. -/
  | internal (path : Path)
  /-- Anywhere else. -/
  | external (specifier : String)
  deriving DecidableEq, Repr, Inhabited

namespace Resolution

/-- The file of the workspace that the specifier leads to. -/
def path? : Resolution → Option Path
  | .internal path => some path
  | .external _ => none

/-- The specifier without its query or fragment. -/
def clean (specifier : Text) : Text :=
  specifier.takeWhile fun c => c != '?' && c != '#'

/-- Whether a specifier is relative to the importing file. -/
def isRelative (specifier : Text) : Bool :=
  specifier = ['.'] || specifier = ['.', '.'] || Text.startsWith specifier "./".toList
    || Text.startsWith specifier "../".toList

/-- The name of a package and the path inside it. The name of a scoped package has two parts. -/
def splitPackage (specifier : Text) : Text × Text :=
  let (first, rest) := specifier.span (· != '/')
  if specifier.head? = some '@' then
    match rest with
    | [] => (specifier, [])
    | slash :: rest =>
      let (second, inner) := rest.span (· != '/')
      (first ++ slash :: second, inner.drop 1)
  else (first, rest.drop 1)

/-- The fields of a package manifest that may name its entry, in order. -/
def manifestFields : List String :=
  ["types", "typings", "module", "main"]

/-- The extensions of sources that are compiled to a file with the given extension. -/
def sourceExtensions (extension : String) : List String :=
  if extension = "js" || extension = "jsx" then ["ts", "tsx"]
  else if extension = "mjs" then ["mts"]
  else if extension = "cjs" then ["cts"]
  else []

end Resolution

namespace Path

/-- The path with another file name. -/
def withFileName (path : Path) (name : String) : Path :=
  match path.parent? with
  | some directory => directory.join ⟨name⟩
  | none => ⟨name⟩

/-- The parts of a file name before and after its last dot. -/
def splitName? (name : Text) : Option (Text × Text) :=
  match name.reverse.span (· != '.') with
  | (_, []) => none
  | (tail, _ :: stem) => some (stem.reverse, tail.reverse)

end Path

namespace Workspace

/-- The first of several candidates that is a file. -/
def firstFile? (workspace : Workspace) (candidates : List Path) : Option Path :=
  candidates.find? workspace.storage.isFile

/-- The candidates for a file that stands for a directory. -/
def indexCandidates (directory : Path) : List Path :=
  Language.indexNames.flatMap fun name =>
    Language.resolutionExtensions.map fun extension => directory.join ⟨name ++ "." ++ extension⟩

/-- The candidates for a path without its extension, or with that of its compiled form. -/
def variantCandidates (base : Path) : List Path :=
  match base.fileName? with
  | none => []
  | some name =>
    (Language.resolutionExtensions.map fun extension =>
      base.withFileName (name ++ "." ++ extension))
      ++ match Path.splitName? name.toList with
        | none => []
        | some (stem, extension) =>
          (Resolution.sourceExtensions (String.ofList extension)).map fun other =>
            base.withFileName (String.ofList stem ++ "." ++ other)

/-- The file that a path stands for: the path itself, then its variants, then the file of a
directory. -/
def fileAt? (workspace : Workspace) (base : Path) : Option Path :=
  workspace.firstFile? (base :: variantCandidates base ++ indexCandidates base)

/-- The directory of the installed package that a specifier names. -/
def packageDirectory (workspace : Workspace) (specifier : Text) : Path :=
  (workspace.root.join ⟨"node_modules"⟩).join
    ⟨String.ofList (Resolution.splitPackage specifier).1⟩

/-- The manifest of the package in a directory. -/
def manifestOf (directory : Path) : Path :=
  directory.join ⟨"package.json"⟩

/-- The entry that a package manifest names. -/
def manifestEntry? (workspace : Workspace) (directory : Path) : Option Path :=
  match workspace.storage.read (manifestOf directory) with
  | .error _ => none
  | .ok text =>
    (JsonValue.parse? text).bind fun manifest =>
      Resolution.manifestFields.findSome? fun field =>
        ((manifest.field? field).bind JsonValue.string?).bind fun entry =>
          workspace.fileAt? (directory.join ⟨entry⟩)

/-- The file of an installed package, or of a path inside it. -/
def packageFile? (workspace : Workspace) (specifier : Text) : Option Path :=
  let inner := (Resolution.splitPackage specifier).2
  let directory := workspace.packageDirectory specifier
  if inner.isEmpty then
    (workspace.manifestEntry? directory).or (workspace.firstFile? (indexCandidates directory))
  else workspace.fileAt? (directory.join ⟨String.ofList inner⟩)

/-- The file of a specifier that is neither relative nor absolute. -/
def bareFile? (workspace : Workspace) (specifier : Text) (installed : Bool) : Option Path :=
  (workspace.config.resolveRoots.findSome? fun extra =>
    workspace.fileAt? ((workspace.root.join extra).join ⟨String.ofList specifier⟩)).or
    (if installed then workspace.packageFile? specifier else none)

/-- The candidate file of a specifier. -/
def importedFile? (workspace : Workspace) (origin : Path) (specifier : Text) (installed : Bool) :
    Option Path :=
  if Resolution.isRelative specifier then
    workspace.fileAt? ((origin.parent?.getD workspace.root).join ⟨String.ofList specifier⟩)
  else match specifier with
    | '/' :: rest => workspace.fileAt? (workspace.root.join ⟨String.ofList rest⟩)
    | _ => workspace.bareFile? specifier installed

/-- Where a specifier written in the file `origin` leads. Packages count as files of the workspace
only if `installed`. -/
def resolveImport (workspace : Workspace) (origin : Path) (specifier : String) (installed : Bool) :
    Resolution :=
  if workspace.supports origin then
    match workspace.importedFile? origin (Resolution.clean specifier.toList) installed with
    | none => .external specifier
    | some candidate =>
      match workspace.resolve candidate with
      | .ok path => .internal path
      | .error _ => .external specifier
  else .external specifier

/-- The files that a module imports directly, in the order of their first import. -/
def internalTargets (workspace : Workspace) (origin : Path) (specifiers : List String)
    (installed : Bool) : List Path :=
  (specifiers.filterMap fun specifier =>
    (workspace.resolveImport origin specifier installed).path?).eraseDups

/-- What a specifier leads to is what its candidate file stands for inside the root. -/
theorem exists_candidate_of_internal {workspace : Workspace} {origin path : Path}
    {specifier : String} {installed : Bool}
    (h : workspace.resolveImport origin specifier installed = .internal path) :
    ∃ candidate, workspace.importedFile? origin (Resolution.clean specifier.toList) installed =
      some candidate ∧ workspace.resolve candidate = .ok path := by
  unfold resolveImport at h
  split at h
  · split at h
    · contradiction
    · next candidate hcandidate =>
        split at h
        · next hresolve =>
            obtain rfl := Resolution.internal.inj h
            exact ⟨candidate, hcandidate, hresolve⟩
        · contradiction
  · contradiction

/-- A specifier leads only to paths that stand for something inside the root. -/
theorem exists_resolve_of_internal {workspace : Workspace} {origin path : Path}
    {specifier : String} {installed : Bool}
    (h : workspace.resolveImport origin specifier installed = .internal path) :
    ∃ candidate, workspace.resolve candidate = .ok path := by
  obtain ⟨candidate, _, hresolve⟩ := exists_candidate_of_internal h
  exact ⟨candidate, hresolve⟩

/-- The direct imports of a file are paths that stand for something inside the root. -/
theorem exists_resolve_of_target {workspace : Workspace} {origin path : Path}
    {specifiers : List String} {installed : Bool}
    (h : path ∈ workspace.internalTargets origin specifiers installed) :
    ∃ candidate, workspace.resolve candidate = .ok path := by
  obtain ⟨specifier, _, hpath⟩ := List.mem_filterMap.mp (List.mem_eraseDups.mp h)
  cases hresolution : workspace.resolveImport origin specifier installed with
  | internal target =>
      rw [hresolution] at hpath
      exact Option.some.inj hpath ▸ exists_resolve_of_internal hresolution
  | external specifier =>
      rw [hresolution] at hpath
      contradiction

/-- The workspace holds the direct imports of a file. -/
theorem internal_targets_holds {workspace : Workspace} {origin path : Path}
    {specifiers : List String} {installed : Bool}
    (h : path ∈ workspace.internalTargets origin specifiers installed) : workspace.Holds path := by
  obtain ⟨_, hresolve⟩ := exists_resolve_of_target h
  exact resolve_holds hresolve

end Workspace

end CodeAtlas
