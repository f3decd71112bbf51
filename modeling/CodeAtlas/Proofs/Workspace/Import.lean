import CodeAtlas.Proofs.Workspace.Lexical
import CodeAtlas.Workspace.Resolution
import Mathlib.Data.List.TakeDrop
import Mathlib.Data.List.TakeWhile

/-!
# Imports stay inside the root

Whatever a specifier says, it leads to a file under the root or nowhere: read `internal_confined`
first. On the way only the manifest of a package is read, and `manifest_stays_inside` says that it
lies under the root as well, because the name of a package never leads above its directory
(`package_descends`). So it does not matter what reading another path would give
(`resolve_import_outside`).
-/

namespace CodeAtlas

namespace Path

/-- A path with another file name is absolute if the path is. -/
theorem with_file_name_is_absolute {path : Path} (h : path.isAbsolute = true) {text : String}
    (hname : path.fileName? = some text) (name : String) :
    (path.withFileName name).isAbsolute = true := by
  cases hparent : path.parent? with
  | some directory =>
      rw [withFileName, hparent]
      exact join_is_absolute (parent_is_absolute h hparent) _
  | none =>
      -- Only an empty path and the root have no parent, and these have no file name.
      unfold parent? at hparent
      split at hparent
      · next hnil => simp [components_of_absolute h] at hnil
      · next hroot =>
          rw [List.reverse_eq_iff] at hroot
          simp [fileName?, hroot] at hname
      · contradiction

/-- A relative path that leads nowhere else than down: from every place it ends there or below. -/
structure Descends (path : Path) : Prop where
  relative : path.isAbsolute = false
  below : ∀ place, place <:+ path.segments.foldl step place

/-- Below an absolute directory, a path that descends keeps the names of the directory. -/
theorem Descends.join {path : Path} (h : path.Descends) {directory : Path}
    (habsolute : directory.isAbsolute = true) :
    directory.normalComponents <+: (directory.join path).normalComponents := by
  rw [normal_components_join habsolute h.relative]
  simpa using List.reverse_prefix.mpr (h.below directory.normalComponents.reverse)

/-- A text without a slash has at most one segment. -/
theorem segments_of_part {text : Text} (h : '/' ∉ text) :
    (⟨String.ofList text⟩ : Path).segments = (segmentComponent? text).toList := by
  rw [segments, String.toList_ofList, Text.split_by_of_not_mem h]
  cases hsegment : segmentComponent? text <;> simp [hsegment]

/-- The segments of a text with a slash in it are those before and after the slash. -/
theorem segments_append_slash (left right : Text) :
    (⟨String.ofList (left ++ '/' :: right)⟩ : Path).segments =
      (⟨String.ofList left⟩ : Path).segments ++ (⟨String.ofList right⟩ : Path).segments := by
  simp only [segments, String.toList_ofList, split_by_slash, List.filterMap_append]

/-- A part that is not two dots stands for a name or for nothing. -/
theorem segment_cases {text : Text} (h : text ≠ ['.', '.']) :
    segmentComponent? text = none ∨ ∃ name, segmentComponent? text = some (.name name) := by
  unfold segmentComponent?
  split
  · exact Or.inl rfl
  · exact Or.inl rfl
  · exact absurd rfl h
  · exact Or.inr ⟨_, rfl⟩

/-- A part that is not two dots descends. -/
theorem part_descends {text : Text} (hslash : '/' ∉ text) (h : text ≠ ['.', '.']) :
    (⟨String.ofList text⟩ : Path).Descends := by
  refine ⟨?_, fun place => ?_⟩
  · unfold isAbsolute
    rw [String.toList_ofList, decide_eq_false_iff_not]
    exact fun hhead => hslash (List.mem_of_mem_head? hhead)
  · rw [segments_of_part hslash]
    rcases segment_cases h with hnone | ⟨name, hname⟩
    · rw [hnone]
      exact List.suffix_rfl
    · rw [hname]
      exact List.suffix_cons _ place

/-- A name and another part descend: two dots after a name lead back to where the name stands. -/
theorem name_and_part_descends {first second : Text} {name : String} (hslash : '/' ∉ first)
    (hfirst : segmentComponent? first = some (.name name)) (hslash' : '/' ∉ second) :
    (⟨String.ofList (first ++ '/' :: second)⟩ : Path).Descends := by
  refine ⟨?_, fun place => ?_⟩
  · unfold isAbsolute
    rw [String.toList_ofList, decide_eq_false_iff_not]
    cases first with
    | nil => simp [segmentComponent?] at hfirst
    | cons c rest =>
        intro hhead
        exact hslash (by simp [Option.some.inj hhead])
  · rw [segments_append_slash, segments_of_part hslash, segments_of_part hslash', hfirst,
      List.foldl_append]
    by_cases hdots : second = ['.', '.']
    · subst hdots
      exact List.suffix_rfl
    · rcases segment_cases hdots with hnone | ⟨other, hother⟩
      · rw [hnone]
        exact List.suffix_cons _ place
      · rw [hother]
        exact (List.suffix_cons _ place).trans (List.suffix_cons _ _)

end Path

namespace Resolution

/-- A specifier that is looked for in the configured directories and the installed packages. -/
def IsBare (specifier : Text) : Prop :=
  isRelative specifier = false ∧ specifier.head? ≠ some '/'

/-- A specifier up to its first slash, and what follows. -/
theorem span_slash (specifier : Text) :
    ∃ first rest, specifier.span (· != '/') = (first, rest) ∧ specifier = first ++ rest ∧
      '/' ∉ first ∧ (rest = [] ∨ ∃ inner, rest = '/' :: inner) := by
  refine ⟨_, _, List.span_eq_takeWhile_dropWhile (· != '/') specifier, ?_, ?_, ?_⟩
  · exact List.takeWhile_append_dropWhile.symm
  · intro hmem
    simpa using List.mem_takeWhile_imp hmem
  · have hhead := List.head?_dropWhile_not (· != '/') specifier
    cases hrest : specifier.dropWhile (· != '/') with
    | nil => exact Or.inl rfl
    | cons c inner =>
        rw [hrest] at hhead
        obtain rfl : c = '/' := by simpa using hhead
        exact Or.inr ⟨inner, rfl⟩

/-- The name of a package never leads above its directory. -/
theorem package_descends {specifier : Text} (h : IsBare specifier) :
    (⟨String.ofList (splitPackage specifier).1⟩ : Path).Descends := by
  obtain ⟨hrelative, habsolute⟩ := h
  obtain ⟨first, rest, hspan, hparts, hslash, hrest⟩ := span_slash specifier
  rw [splitPackage, hspan]
  dsimp only
  split
  · next hscope =>
      -- The first part of a scoped name starts with its mark, so it is a name.
      obtain ⟨tail, rfl⟩ : ∃ tail, first = '@' :: tail := by
        rw [hparts] at hscope
        cases first with
        | nil => rcases hrest with rfl | ⟨inner, rfl⟩ <;> simp at hscope
        | cons c tail => exact ⟨tail, by simpa using hscope⟩
      have hname : Path.segmentComponent? ('@' :: tail) =
          some (.name (String.ofList ('@' :: tail))) := by
        simp [Path.segmentComponent?]
      rcases hrest with rfl | ⟨inner, rfl⟩
      · rw [hparts, List.append_nil]
        exact Path.part_descends hslash (by simp)
      · obtain ⟨second, _, hspan', _, hslash', _⟩ := span_slash inner
        dsimp only
        rw [hspan']
        exact Path.name_and_part_descends hslash hname hslash'
  · refine Path.part_descends hslash ?_
    rintro rfl
    rcases hrest with rfl | ⟨inner, rfl⟩
    · simp [hparts, isRelative] at hrelative
    · simp [hparts, isRelative, Text.startsWith] at hrelative

end Resolution

namespace Storage

/-- The storage where paths that lead out of a root are read in another way. -/
def withOutside (storage : Storage) (root : Path) (read : Path → Except ReadFault Text) : Storage :=
  { storage with
    read := fun path =>
      if path.normalize.startsWith root then storage.read path else read path }

/-- A path that stays inside the root is read as before. -/
theorem read_with_outside {storage : Storage} {root path : Path}
    (h : path.normalize.startsWith root = true) (read : Path → Except ReadFault Text) :
    (storage.withOutside root read).read path = storage.read path :=
  if_pos h

end Storage

namespace Workspace

variable {workspace : Workspace}

/-- The workspace where paths that lead out of its root are read in another way. -/
def withOutside (workspace : Workspace) (read : Path → Except ReadFault Text) : Workspace :=
  workspace.withStorage (workspace.storage.withOutside workspace.root read)

section Candidates

/-- A candidate that is taken is a file and one of the candidates. -/
theorem mem_of_first_file {candidates : List Path} {file : Path}
    (h : workspace.firstFile? candidates = some file) :
    file ∈ candidates ∧ workspace.storage.isFile file = true :=
  ⟨List.mem_of_find?_eq_some h, List.find?_some h⟩

/-- The candidates for the file of an absolute directory are absolute. -/
theorem index_candidates_absolute {directory : Path} (h : directory.isAbsolute = true) :
    ∀ candidate ∈ indexCandidates directory, candidate.isAbsolute = true := by
  intro candidate hcandidate
  obtain ⟨_, _, hname⟩ := List.mem_flatMap.mp hcandidate
  obtain ⟨_, _, rfl⟩ := List.mem_map.mp hname
  exact Path.join_is_absolute h _

/-- The variants of an absolute path are absolute. -/
theorem variant_candidates_absolute {base : Path} (h : base.isAbsolute = true) :
    ∀ candidate ∈ variantCandidates base, candidate.isAbsolute = true := by
  intro candidate hcandidate
  unfold variantCandidates at hcandidate
  split at hcandidate
  · contradiction
  · next name hname =>
      rcases List.mem_append.mp hcandidate with hcandidate | hcandidate
      · obtain ⟨_, _, rfl⟩ := List.mem_map.mp hcandidate
        exact Path.with_file_name_is_absolute h hname _
      · split at hcandidate
        · contradiction
        · obtain ⟨_, _, rfl⟩ := List.mem_map.mp hcandidate
          exact Path.with_file_name_is_absolute h hname _

/-- An absolute path of a file. -/
def IsFound (workspace : Workspace) (file : Path) : Prop :=
  file.isAbsolute = true ∧ workspace.storage.isFile file = true

/-- The file that a directory stands for is found. -/
theorem index_is_found {directory file : Path} (habsolute : directory.isAbsolute = true)
    (h : workspace.firstFile? (indexCandidates directory) = some file) :
    workspace.IsFound file := by
  obtain ⟨hmem, hfile⟩ := mem_of_first_file h
  exact ⟨index_candidates_absolute habsolute file hmem, hfile⟩

/-- The file that an absolute path stands for is found. -/
theorem file_at_is_found {base file : Path} (habsolute : base.isAbsolute = true)
    (h : workspace.fileAt? base = some file) : workspace.IsFound file := by
  obtain ⟨hmem, hfile⟩ := mem_of_first_file h
  refine ⟨?_, hfile⟩
  rcases List.mem_append.mp hmem with hmem | hmem
  · rcases List.mem_cons.mp hmem with rfl | hmem
    · exact habsolute
    · exact variant_candidates_absolute habsolute file hmem
  · exact index_candidates_absolute habsolute file hmem

/-- The entry of a package is found. -/
theorem manifest_entry_is_found {directory file : Path} (habsolute : directory.isAbsolute = true)
    (h : workspace.manifestEntry? directory = some file) : workspace.IsFound file := by
  unfold manifestEntry? at h
  split at h
  · contradiction
  · obtain ⟨_, _, hfields⟩ := Option.bind_eq_some_iff.mp h
    obtain ⟨_, _, hfield⟩ := List.exists_of_findSome?_eq_some hfields
    obtain ⟨_, _, hentry⟩ := Option.bind_eq_some_iff.mp hfield
    exact file_at_is_found (Path.join_is_absolute habsolute _) hentry

variable (habsolute : workspace.root.isAbsolute = true)

include habsolute

/-- The directory of a package is absolute. -/
theorem package_directory_absolute (specifier : Text) :
    (workspace.packageDirectory specifier).isAbsolute = true :=
  Path.join_is_absolute (Path.join_is_absolute habsolute _) _

/-- The file of a package is found. -/
theorem package_file_is_found {specifier : Text} {file : Path}
    (h : workspace.packageFile? specifier = some file) : workspace.IsFound file := by
  have hdirectory := package_directory_absolute habsolute specifier
  unfold packageFile? at h
  dsimp only at h
  split at h
  · rcases Option.or_eq_some_iff.mp h with h | ⟨_, h⟩
    · exact manifest_entry_is_found hdirectory h
    · exact index_is_found hdirectory h
  · exact file_at_is_found (Path.join_is_absolute hdirectory _) h

/-- The file that a specifier in an absolute path leads to is found. -/
theorem imported_file_is_found {origin file : Path} {specifier : Text} {installed : Bool}
    (horigin : origin.isAbsolute = true)
    (h : workspace.importedFile? origin specifier installed = some file) :
    workspace.IsFound file := by
  unfold importedFile? at h
  split at h
  · refine file_at_is_found (Path.join_is_absolute ?_ _) h
    cases hparent : origin.parent? with
    | none => exact habsolute
    | some parent => exact Path.parent_is_absolute horigin hparent
  · split at h
    · exact file_at_is_found (Path.join_is_absolute habsolute _) h
    · rcases Option.or_eq_some_iff.mp h with h | ⟨_, h⟩
      · obtain ⟨extra, _, hextra⟩ := List.exists_of_findSome?_eq_some h
        exact file_at_is_found
          (Path.join_is_absolute (Path.join_is_absolute habsolute extra) _) hextra
      · split at h
        · exact package_file_is_found habsolute h
        · contradiction

end Candidates

/-- Whatever a specifier says, it leads to a path that stands for itself under the root, and if it
is written in a file with an absolute path, to a file. -/
theorem internal_confined (h : workspace.IsLexical) {origin path : Path} {specifier : String}
    {installed : Bool}
    (hinternal : workspace.resolveImport origin specifier installed = .internal path) :
    workspace.Confines path ∧
      (origin.isAbsolute = true → workspace.storage.isFile path = true) := by
  obtain ⟨candidate, hcandidate, hresolve⟩ := exists_candidate_of_internal hinternal
  refine ⟨h.confines (resolve_holds hresolve), fun horigin => ?_⟩
  obtain ⟨habsolute, hfile⟩ := imported_file_is_found h.absolute horigin hcandidate
  rw [h.resolve_eq, join_eq_of_absolute habsolute] at hresolve
  split at hresolve
  · exact Except.ok.inj hresolve ▸ h.storage.is_file habsolute hfile
  · contradiction

section Manifest

variable (habsolute : workspace.root.isAbsolute = true) (hplain : workspace.root.IsPlain)

include habsolute hplain

/-- The manifest of the package that a specifier names lies under the root. -/
theorem manifest_stays_inside {specifier : Text} (h : Resolution.IsBare specifier) :
    (manifestOf (workspace.packageDirectory specifier)).normalize.startsWith workspace.root =
      true := by
  have hmodules : (⟨"node_modules"⟩ : Path).Descends :=
    @Path.part_descends "node_modules".toList (by decide) (by decide)
  have hmanifest : (⟨"package.json"⟩ : Path).Descends :=
    @Path.part_descends "package.json".toList (by decide) (by decide)
  have hinstalled := hmodules.join habsolute
  have hdirectory :=
    (Resolution.package_descends h).join (Path.join_is_absolute habsolute ⟨"node_modules"⟩)
  have hfile := hmanifest.join (package_directory_absolute habsolute specifier)
  rw [Path.starts_with_iff_components, Path.components_normalize, hplain.components_eq]
  exact hinstalled.trans (hdirectory.trans hfile)

/-- The file of a package does not depend on what lies outside the root. -/
theorem package_file_outside (read : Path → Except ReadFault Text) {specifier : Text}
    (h : Resolution.IsBare specifier) :
    (workspace.withOutside read).packageFile? specifier = workspace.packageFile? specifier := by
  have hread : (workspace.withOutside read).storage.read
        (manifestOf (workspace.packageDirectory specifier)) =
      workspace.storage.read (manifestOf (workspace.packageDirectory specifier)) :=
    Storage.read_with_outside (manifest_stays_inside habsolute hplain h) read
  have hentry : manifestEntry? (workspace.withOutside read) (workspace.packageDirectory specifier) =
      manifestEntry? workspace (workspace.packageDirectory specifier) := by
    unfold manifestEntry?
    rw [hread]
    rfl
  unfold packageFile?
  dsimp only
  rw [← hentry]
  rfl

/-- What a specifier leads to does not depend on what lies outside the root. -/
theorem resolve_import_outside (read : Path → Except ReadFault Text) (origin : Path)
    (specifier : String) (installed : Bool) :
    (workspace.withOutside read).resolveImport origin specifier installed =
      workspace.resolveImport origin specifier installed := by
  have hfile : (workspace.withOutside read).importedFile? origin
        (Resolution.clean specifier.toList) installed =
      workspace.importedFile? origin (Resolution.clean specifier.toList) installed := by
    unfold importedFile?
    split
    · rfl
    · next hrelative =>
        split
        · rfl
        · next hslash =>
            have hbare : Resolution.IsBare (Resolution.clean specifier.toList) := by
              refine ⟨Bool.eq_false_iff.mpr hrelative, fun hhead => ?_⟩
              obtain ⟨rest, hrest⟩ := List.head?_eq_some_iff.mp hhead
              exact hslash rest hrest
            unfold bareFile?
            rw [package_file_outside habsolute hplain read hbare]
            rfl
  unfold resolveImport
  rw [hfile]
  rfl

end Manifest

/-- A file that the workspace holds is read as before. -/
theorem read_outside {path : Path} (h : workspace.Holds path)
    (read : Path → Except ReadFault Text) :
    (workspace.withOutside read).storage.read path = workspace.storage.read path := by
  have hplain : path.normalize = path := h.1
  refine Storage.read_with_outside ?_ read
  rw [hplain]
  exact h.2

end Workspace

end CodeAtlas
