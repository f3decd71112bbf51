import CodeAtlas.Proofs.Workspace.Import
import Mathlib.Data.List.Find

/-!
# Relative imports of one place

A relative import joins its specifier to the directory of the importing file and looks for a file at
the joined path, at its variants and in it as a directory. Carrying out the dots of the joined path
gives the place it leads to. A joined path that ends in two dots has no file name, so it has no
variants (`file_at_place`). Read `relative_imports_agree_iff` first: this is the only way in which two
spellings of one place can lead to different files.
-/

namespace CodeAtlas

namespace Path

/-- A text without slashes that is not made of dots is a name. -/
theorem is_name_of_mem {text : Text} {c : Char} (hslash : '/' ∉ text) (hc : c ∈ text)
    (hdot : c ≠ '.') : IsName (String.ofList text) := by
  refine ⟨by simpa using hslash, ?_⟩
  rw [String.toList_ofList]
  unfold segmentComponent?
  split
  · contradiction
  · exact absurd (List.mem_singleton.mp hc) hdot
  · simp [hdot] at hc
  · rfl

/-- A name is its only segment. -/
theorem segments_of_name {name : String} (h : IsName name) :
    (⟨name⟩ : Path).segments = [.name name] := by
  rw [segments, Text.split_by_of_not_mem h.1, List.filterMap_cons_some h.2]
  rfl

/-- A name is a relative path. -/
theorem name_not_absolute {name : String} (h : IsName name) :
    (⟨name⟩ : Path).isAbsolute = false := by
  rw [isAbsolute, decide_eq_false_iff_not]
  exact fun hhead => h.1 (List.mem_of_mem_head? hhead)

/-- A name below a directory leads to the place below that of the directory. -/
theorem normal_components_join_name {directory : Path} (h : directory.isAbsolute = true)
    {name : String} (hname : IsName name) :
    (directory.join ⟨name⟩).normalComponents = directory.normalComponents ++ [.name name] := by
  rw [normal_components_join h (name_not_absolute hname), segments_of_name hname, List.foldl_cons,
    List.foldl_nil, step.eq_def]
  simp

/-- An absolute path that ends in a name, above the name. -/
theorem exists_above_of_file_name {path : Path} (h : path.isAbsolute = true) {name : String}
    (hname : path.fileName? = some name) :
    ∃ above, path.components = .root :: above ++ [.name name] ∧
      (∀ component ∈ above, IsInner component) ∧ '/' ∉ name.toList := by
  have hinner := path.segments_are_inner
  have hcomponents := components_of_absolute h
  have hlast : path.components.getLast? = some (.name name) := by
    unfold fileName? at hname
    split at hname
    · next heq => rw [heq, Option.some.inj hname]
    · contradiction
  obtain ⟨front, hfront⟩ := List.getLast?_eq_some_iff.mp hlast
  cases front with
  | nil =>
      rw [hcomponents] at hfront
      simp at hfront
  | cons first above =>
      rw [hcomponents, List.cons_append] at hfront
      obtain ⟨rfl, hsegments⟩ := List.cons.inj hfront
      refine ⟨above, by rw [hcomponents, hsegments, List.cons_append], fun component hcomponent => ?_, ?_⟩
      · exact hinner component (by simp [hsegments, hcomponent])
      · rcases hinner (.name name) (by simp [hsegments]) with hparent | ⟨_, hname, heq⟩
        · contradiction
        · exact Component.name.inj heq ▸ hname.1

/-- The place of an absolute path that ends in a name has that name, and its siblings stand beside
it. -/
theorem place_of_file_name {path : Path} (h : path.isAbsolute = true) {name : String}
    (hname : path.fileName? = some name) :
    ∃ directory, path.normalComponents = directory ++ [.name name] ∧
      ∀ other, IsName other →
        (path.withFileName other).normalComponents = directory ++ [.name other] := by
  obtain ⟨above, hcomponents, hinner, -⟩ := exists_above_of_file_name h hname
  have hparent : path.parent? = some (ofComponents (.root :: above)) := by
    rw [parent?, hcomponents]
    simp
  refine ⟨(ofComponents (.root :: above)).normalComponents, ?_, fun other hother => ?_⟩
  · rw [normalComponents, normalComponents, hcomponents, components_of_inner hinner,
      List.foldl_append, List.foldl_cons, List.foldl_nil, step.eq_def]
    simp
  · rw [withFileName, hparent]
    exact normal_components_join_name (of_components_is_absolute above) hother

/-- The place of a place is the place itself. -/
theorem normal_components_normalize (path : Path) :
    path.normalize.normalComponents = path.normalComponents := by
  rw [← path.normalize_is_plain.components_eq, components_normalize]

/-- The place of an absolute path is spelled from the top. -/
theorem normalize_is_absolute {path : Path} (h : path.isAbsolute = true) :
    path.normalize.isAbsolute = true := by
  rw [normalize_eq_walk h]
  exact of_components_is_absolute _

end Path

namespace Language

/-- With one of the suffixes tried for an import, any text without slashes is a name. -/
theorem is_name_with_extension {stem extension : String} (hslash : '/' ∉ stem.toList)
    (h : extension ∈ resolutionExtensions) : Path.IsName (stem ++ "." ++ extension) := by
  have hextensions : ∀ extension ∈ resolutionExtensions,
      '/' ∉ extension.toList ∧ extension.toList.any (· ≠ '.') = true := by
    decide
  obtain ⟨hextension, hany⟩ := hextensions extension h
  obtain ⟨c, hc, hdot⟩ := List.any_eq_true.mp hany
  rw [decide_eq_true_eq] at hdot
  have hname : Path.IsName (String.ofList (stem ++ "." ++ extension).toList) := by
    refine Path.is_name_of_mem (c := c) ?_ (by simp [hc]) hdot
    simp [hslash, hextension]
  rwa [String.ofList_toList] at hname

end Language

namespace Workspace

/-- The names of the variants of a file name, in the order they are tried. -/
def variantNames (name : String) : List String :=
  (Language.resolutionExtensions.map fun extension => name ++ "." ++ extension)
    ++ match Path.splitName? name.toList with
      | none => []
      | some (stem, extension) =>
        (Resolution.sourceExtensions (String.ofList extension)).map fun other =>
          String.ofList stem ++ "." ++ other

/-- The names of the files that can stand for a directory, in the order they are tried. -/
def indexFileNames : List String :=
  Language.indexNames.flatMap fun name =>
    Language.resolutionExtensions.map fun extension => name ++ "." ++ extension

/-- The variants of a path have the variants of its file name. -/
theorem variant_candidates_eq {base : Path} {name : String} (h : base.fileName? = some name) :
    variantCandidates base = (variantNames name).map base.withFileName := by
  cases hsplit : Path.splitName? name.toList with
  | none => simp [variantCandidates, variantNames, h, hsplit]
  | some parts => simp [variantCandidates, variantNames, h, hsplit, Function.comp_def]

/-- The files that stand for a directory are looked for in it. -/
theorem index_candidates_eq (directory : Path) :
    indexCandidates directory = indexFileNames.map fun name => directory.join ⟨name⟩ := by
  simp [indexCandidates, indexFileNames, List.map_flatMap, Function.comp_def]

/-- The sources of a compiled file have suffixes that are tried for an import. -/
theorem source_extensions_subset (extension : String) :
    Resolution.sourceExtensions extension ⊆ Language.resolutionExtensions := by
  unfold Resolution.sourceExtensions
  split
  · decide
  · split
    · decide
    · split
      · decide
      · simp

/-- The part of a file name before its last dot is part of it. -/
theorem stem_subset {name stem extension : Text}
    (h : Path.splitName? name = some (stem, extension)) : stem ⊆ name := by
  unfold Path.splitName? at h
  rw [List.span_eq_takeWhile_dropWhile] at h
  split at h
  · contradiction
  · next tail dot rest heq =>
      obtain ⟨rfl, -⟩ := Prod.mk.inj (Option.some.inj h)
      have hrest := (Prod.mk.inj heq).2
      intro c hc
      have hmem : c ∈ name.reverse.dropWhile (· != '.') := by
        rw [hrest]
        exact List.mem_cons_of_mem _ (List.mem_reverse.mp hc)
      exact List.mem_reverse.mp ((List.dropWhile_sublist _).subset hmem)

/-- The variants of a file name are names. -/
theorem variant_names_are_names {name : String} (hslash : '/' ∉ name.toList) :
    ∀ variant ∈ variantNames name, Path.IsName variant := by
  intro variant hvariant
  rcases List.mem_append.mp hvariant with hvariant | hvariant
  · obtain ⟨extension, hextension, rfl⟩ := List.mem_map.mp hvariant
    exact Language.is_name_with_extension hslash hextension
  · split at hvariant
    · contradiction
    · next stem extension hsplit =>
        obtain ⟨other, hother, rfl⟩ := List.mem_map.mp hvariant
        refine Language.is_name_with_extension ?_ (source_extensions_subset _ hother)
        rw [String.toList_ofList]
        exact fun hmem => hslash (stem_subset hsplit hmem)

/-- The files that can stand for a directory have names. -/
theorem index_names_are_names : ∀ name ∈ indexFileNames, Path.IsName name := by
  intro name hname
  obtain ⟨stem, hstem, hname⟩ := List.mem_flatMap.mp hname
  obtain ⟨extension, hextension, rfl⟩ := List.mem_map.mp hname
  obtain rfl := List.mem_singleton.mp hstem
  exact Language.is_name_with_extension (by decide) hextension

/-- The variants of a path stand beside its place. -/
theorem map_variant_candidates {base : Path} (habsolute : base.isAbsolute = true) {name : String}
    (h : base.fileName? = some name) {directory : List Component}
    (hplace : base.normalComponents = directory ++ [.name name]) :
    (variantCandidates base).map Path.normalComponents =
      (variantNames name).map fun variant => directory ++ [.name variant] := by
  obtain ⟨above, hplace', hsiblings⟩ := Path.place_of_file_name habsolute h
  obtain ⟨_, _, _, hslash⟩ := Path.exists_above_of_file_name habsolute h
  obtain rfl : above = directory := List.append_cancel_right (hplace'.symm.trans hplace)
  rw [variant_candidates_eq h, List.map_map]
  exact List.map_congr_left fun variant hvariant =>
    hsiblings variant (variant_names_are_names hslash variant hvariant)

/-- The files that stand for a directory stand in its place. -/
theorem map_index_candidates {directory : Path} (habsolute : directory.isAbsolute = true) :
    (indexCandidates directory).map Path.normalComponents =
      indexFileNames.map fun name => directory.normalComponents ++ [.name name] := by
  rw [index_candidates_eq, List.map_map]
  exact List.map_congr_left fun name hname =>
    Path.normal_components_join_name habsolute (index_names_are_names name hname)

/-- Paths with the same components once their dots are carried out have the same places. -/
theorem map_normalize_congr {left right : List Path}
    (h : left.map Path.normalComponents = right.map Path.normalComponents) :
    left.map Path.normalize = right.map Path.normalize := by
  have hplaces := congrArg (List.map Path.ofComponents) h
  rwa [List.map_map, List.map_map] at hplaces

/-- The places tried for a place: the place itself, its variants if the place is named at the end of
the path, then the files that stand for a directory. -/
def placesTried (place : Path) (named : Bool) : List Path :=
  (place :: ((if named then variantCandidates place else []) ++ indexCandidates place)).map
    Path.normalize

/-- The candidates for a path lead to the places tried for its place. -/
theorem map_normalize_candidates {base : Path} (habsolute : base.isAbsolute = true) :
    (base :: variantCandidates base ++ indexCandidates base).map Path.normalize =
      placesTried base.normalize base.fileName?.isSome := by
  have hplace := Path.normalize_is_absolute habsolute
  have hsame := Path.normal_components_normalize base
  have hindexes : (indexCandidates base).map Path.normalize =
      (indexCandidates base.normalize).map Path.normalize := by
    refine map_normalize_congr ?_
    rw [map_index_candidates habsolute, map_index_candidates hplace, hsame]
  have hvariants : (variantCandidates base).map Path.normalize =
      (if base.fileName?.isSome then variantCandidates base.normalize else []).map Path.normalize := by
    cases hname : base.fileName? with
    | none => simp [variantCandidates, hname]
    | some name =>
        obtain ⟨directory, hdirectory, -⟩ := Path.place_of_file_name habsolute hname
        have hname' : base.normalize.fileName? = some name := by
          simp [Path.fileName?, Path.components_normalize, hdirectory]
        rw [Option.isSome_some, if_pos rfl]
        refine map_normalize_congr ?_
        rw [map_variant_candidates habsolute hname hdirectory,
          map_variant_candidates hplace hname' (hsame.trans hdirectory)]
  have hbase : base.normalize.normalize = base.normalize := base.normalize_is_plain
  rw [placesTried, List.cons_append, List.map_cons, List.map_append, hvariants, hindexes,
    List.map_cons, List.map_append, hbase]

/-- A variant of a place and a file that stands for it as a directory are different places. -/
theorem variant_ne_index {place variant file : Path} (habsolute : place.isAbsolute = true)
    (hvariant : variant ∈ variantCandidates place) (hfile : file ∈ indexCandidates place) :
    variant.normalize ≠ file.normalize := by
  intro heq
  have hlength : variant.normalComponents.length = file.normalComponents.length := by
    rw [← Path.components_normalize, ← Path.components_normalize, heq]
  have hvariantLength : variant.normalComponents.length = place.normalComponents.length := by
    cases hname : place.fileName? with
    | none => simp [variantCandidates, hname] at hvariant
    | some name =>
        obtain ⟨directory, hdirectory, -⟩ := Path.place_of_file_name habsolute hname
        have hmem := List.mem_map_of_mem (f := Path.normalComponents) hvariant
        rw [map_variant_candidates habsolute hname hdirectory] at hmem
        obtain ⟨other, -, hother⟩ := List.mem_map.mp hmem
        simp [← hother, hdirectory]
  have hfileLength : file.normalComponents.length = place.normalComponents.length + 1 := by
    have hmem := List.mem_map_of_mem (f := Path.normalComponents) hfile
    rw [map_index_candidates habsolute] at hmem
    obtain ⟨other, -, hother⟩ := List.mem_map.mp hmem
    simp [← hother]
  omega

end Workspace

/-- A storage looks absolute paths up by their places, whatever the spelling. -/
def Storage.LooksUpPlaces (storage : Storage) : Prop :=
  ∀ path : Path, path.isAbsolute = true → storage.isFile path = storage.isFile path.normalize

/-- Files in memory are looked up by their places. -/
theorem MemoryFiles.storage_looks_up_places (memory : MemoryFiles) (reversed : Bool) :
    (memory.storage reversed).LooksUpPlaces := by
  intro path _
  have hplain : path.normalize.normalize = path.normalize := Path.normalize_is_plain path
  simp only [storage, content?, hplain]

/-- A relative specifier in a file with an absolute path. -/
structure RelativeImport where
  origin : Path
  specifier : String
  absolute : origin.isAbsolute = true
  relative : Resolution.isRelative (Resolution.clean specifier.toList) = true

namespace RelativeImport

/-- The specifier joined to the directory of the importing file. -/
def joined (link : RelativeImport) (workspace : Workspace) : Path :=
  (link.origin.parent?.getD workspace.root).join
    ⟨String.ofList (Resolution.clean link.specifier.toList)⟩

/-- The place that the import leads to. -/
def place (link : RelativeImport) (workspace : Workspace) : Path :=
  (link.joined workspace).normalize

/-- Whether the joined path ends in the name of the place, not in two dots. -/
def named (link : RelativeImport) (workspace : Workspace) : Bool :=
  (link.joined workspace).fileName?.isSome

/-- The file of the workspace that the import is resolved to. -/
def found (link : RelativeImport) (workspace : Workspace) (installed : Bool) : Option Path :=
  (workspace.resolveImport link.origin link.specifier installed).path?

variable {workspace : Workspace}

/-- In a workspace with an absolute root, the joined path is absolute. -/
theorem joined_is_absolute (link : RelativeImport) (habsolute : workspace.root.isAbsolute = true) :
    (link.joined workspace).isAbsolute = true := by
  refine Path.join_is_absolute ?_ _
  cases hparent : link.origin.parent? with
  | none => exact habsolute
  | some parent => exact Path.parent_is_absolute link.absolute hparent

end RelativeImport

namespace Workspace

variable {workspace : Workspace}

/-- Where paths are looked up by their places, the file that a path stands for is the first file
among the places tried for its place. -/
theorem file_at_place (h : workspace.storage.LooksUpPlaces) {base : Path}
    (habsolute : base.isAbsolute = true) :
    (workspace.fileAt? base).map Path.normalize =
      (placesTried base.normalize base.fileName?.isSome).find? workspace.storage.isFile := by
  have hcandidates : ∀ candidate ∈ base :: variantCandidates base ++ indexCandidates base,
      candidate.isAbsolute = true := by
    intro candidate hcandidate
    rcases List.mem_append.mp hcandidate with hcandidate | hcandidate
    · rcases List.mem_cons.mp hcandidate with rfl | hcandidate
      · exact habsolute
      · exact variant_candidates_absolute habsolute candidate hcandidate
    · exact index_candidates_absolute habsolute candidate hcandidate
  rw [← map_normalize_candidates habsolute, List.find?_map, fileAt?, firstFile?]
  exact congrArg (Option.map Path.normalize)
    (List.find?_congr fun candidate hcandidate => h candidate (hcandidates candidate hcandidate))

/-- A relative import is resolved to the first file among the places tried for its place, if this
lies under the root. -/
theorem relative_import_found (h : workspace.IsLexical) (hplaces : workspace.storage.LooksUpPlaces)
    (link : RelativeImport) (installed : Bool) :
    link.found workspace installed =
      if workspace.supports link.origin then
        ((placesTried (link.place workspace) (link.named workspace)).find?
          workspace.storage.isFile).filter (·.startsWith workspace.root)
      else none := by
  have habsolute := link.joined_is_absolute h.absolute
  have himported : workspace.importedFile? link.origin
      (Resolution.clean link.specifier.toList) installed = workspace.fileAt? (link.joined workspace) :=
    if_pos link.relative
  unfold RelativeImport.found resolveImport
  rw [himported, RelativeImport.place, RelativeImport.named, ← file_at_place hplaces habsolute]
  split
  · cases hfile : workspace.fileAt? (link.joined workspace) with
    | none => rfl
    | some file =>
        have hfound := file_at_is_found habsolute hfile
        dsimp only
        rw [Option.map_some, h.resolve_eq, join_eq_of_absolute hfound.1]
        by_cases hinside : file.normalize.startsWith workspace.root = true
        · simp [hinside, Resolution.path?, Option.filter]
        · simp [hinside, Resolution.path?, Option.filter]
  · rfl

/-- What a relative import is resolved to is the first file among the places tried for its place. -/
theorem first_of_places_tried (h : workspace.IsLexical)
    (hplaces : workspace.storage.LooksUpPlaces) {link : RelativeImport} {installed : Bool}
    {file : Path} (hfound : link.found workspace installed = some file) :
    workspace.supports link.origin = true ∧
      (placesTried (link.place workspace) (link.named workspace)).find? workspace.storage.isFile =
        some file := by
  rw [relative_import_found h hplaces] at hfound
  split at hfound
  · next hsupports => exact ⟨hsupports, (Option.filter_eq_some_iff.mp hfound).1⟩
  · contradiction

/-- If a place is no file and one of its variants is, what is found with its variants is not what is
found without them. -/
theorem found_apart (hplaces : workspace.storage.LooksUpPlaces) {place : Path}
    (habsolute : place.isAbsolute = true) (hplain : place.IsPlain)
    (hplace : workspace.storage.isFile place = false) {variant : Path}
    (hvariant : variant ∈ variantCandidates place) (hfile : workspace.storage.isFile variant = true)
    {file : Path} (hnamed : (placesTried place true).find? workspace.storage.isFile = some file) :
    (placesTried place false).find? workspace.storage.isFile ≠ some file := by
  have hnormalize : place.normalize = place := hplain
  have hvariantFile : workspace.storage.isFile variant.normalize = true :=
    (hplaces variant (variant_candidates_absolute habsolute variant hvariant)) ▸ hfile
  rw [placesTried, if_pos rfl, List.map_cons, hnormalize, List.find?_cons_of_neg (by simp [hplace]),
    List.map_append, List.find?_append] at hnamed
  rw [placesTried, if_neg (by simp), List.nil_append, List.map_cons, hnormalize,
    List.find?_cons_of_neg (by simp [hplace])]
  intro hindex
  obtain ⟨found, hfound⟩ : ∃ found, ((variantCandidates place).map Path.normalize).find?
      workspace.storage.isFile = some found := by
    refine Option.isSome_iff_exists.mp (List.find?_isSome.mpr ⟨_, ?_, hvariantFile⟩)
    exact List.mem_map_of_mem hvariant
  rw [hfound, Option.some_or] at hnamed
  obtain rfl := Option.some.inj hnamed
  obtain ⟨other, hother, rfl⟩ := List.mem_map.mp (List.mem_of_find?_eq_some hfound)
  obtain ⟨index, hindex, heq⟩ := List.mem_map.mp (List.mem_of_find?_eq_some hindex)
  exact variant_ne_index habsolute hother hindex heq.symm

/-- If a place is a file, or none of its variants is, nothing else is found with its variants. -/
theorem found_alike (hplaces : workspace.storage.LooksUpPlaces) {place : Path}
    (habsolute : place.isAbsolute = true) (hplain : place.IsPlain)
    (h : workspace.storage.isFile place = true ∨
      ∀ variant ∈ variantCandidates place, workspace.storage.isFile variant = false) :
    (placesTried place true).find? workspace.storage.isFile =
      (placesTried place false).find? workspace.storage.isFile := by
  have hnormalize : place.normalize = place := hplain
  rw [placesTried, placesTried, if_pos rfl, if_neg (by simp), List.nil_append, List.map_cons,
    List.map_cons, hnormalize]
  rcases h with hplace | hvariants
  · rw [List.find?_cons_of_pos hplace, List.find?_cons_of_pos hplace]
  · have hnone : ((variantCandidates place).map Path.normalize).find? workspace.storage.isFile =
        none := by
      refine List.find?_eq_none.mpr fun file hfile => ?_
      obtain ⟨variant, hvariant, rfl⟩ := List.mem_map.mp hfile
      rw [← hplaces variant (variant_candidates_absolute habsolute variant hvariant),
        hvariants variant hvariant]
      simp
    rw [List.find?_cons, List.find?_cons, List.map_append, List.find?_append, hnone, Option.none_or]

/-- Where paths go by their spelling and are looked up by their places, two relative imports of one
place lead to the same file or both to none, unless a variant of the place is taken by only one of
them: the joined path of one ends in the name of the place and that of the other in two dots. -/
theorem relative_imports_agree_iff (h : workspace.IsLexical)
    (hplaces : workspace.storage.LooksUpPlaces) (left right : RelativeImport)
    (hplace : left.place workspace = right.place workspace) (installed installed' : Bool) :
    left.found workspace installed = right.found workspace installed' ↔
      (left.found workspace installed = none ∧ right.found workspace installed' = none) ∨
      (workspace.supports left.origin = true ∧ workspace.supports right.origin = true ∧
        (left.named workspace = right.named workspace ∨
          workspace.storage.isFile (left.place workspace) = true ∨
          ∀ variant ∈ variantCandidates (left.place workspace),
            workspace.storage.isFile variant = false)) := by
  have habsolute : (left.place workspace).isAbsolute = true :=
    Path.normalize_is_absolute (left.joined_is_absolute h.absolute)
  have hplain : (left.place workspace).IsPlain := Path.normalize_is_plain _
  have hleft := relative_import_found h hplaces left installed
  have hright := relative_import_found h hplaces right installed'
  rw [← hplace] at hright
  constructor
  · intro heq
    cases hfound : left.found workspace installed with
    | none => exact Or.inl ⟨rfl, heq ▸ hfound⟩
    | some file =>
        obtain ⟨hsupports, hfile⟩ := first_of_places_tried h hplaces hfound
        obtain ⟨hsupports', hfile'⟩ := first_of_places_tried h hplaces (heq ▸ hfound)
        rw [← hplace] at hfile'
        refine Or.inr ⟨hsupports, hsupports', or_iff_not_imp_left.mpr fun hnamed => ?_⟩
        by_contra hneither
        obtain ⟨hnot, hvariant⟩ := not_or.mp hneither
        push Not at hvariant
        obtain ⟨variant, hvariant, hvariantFile⟩ := hvariant
        have hapart : (placesTried (left.place workspace) true).find? workspace.storage.isFile =
              some file →
            (placesTried (left.place workspace) false).find? workspace.storage.isFile ≠ some file :=
          found_apart hplaces habsolute hplain (Bool.not_eq_true _ ▸ hnot) hvariant
            (Bool.eq_true_of_not_eq_false hvariantFile)
        cases hleftNamed : left.named workspace <;> cases hrightNamed : right.named workspace
        · exact hnamed (hleftNamed.trans hrightNamed.symm)
        · exact hapart (hrightNamed ▸ hfile') (hleftNamed ▸ hfile)
        · exact hapart (hleftNamed ▸ hfile) (hrightNamed ▸ hfile')
        · exact hnamed (hleftNamed.trans hrightNamed.symm)
  · rintro (⟨hnone, hnone'⟩ | ⟨hsupports, hsupports', hsame⟩)
    · rw [hnone, hnone']
    · rw [hleft, hright, if_pos hsupports, if_pos hsupports']
      rcases hsame with hnamed | halike
      · rw [hnamed]
      · have hfound := found_alike hplaces habsolute hplain halike
        cases left.named workspace <;> cases right.named workspace <;> simp [hfound]

/-- A workspace where a file and a directory share a name. -/
def fileBesideDirectory : Workspace where
  root := ⟨"/ws"⟩
  storage := MemoryFiles.storage ⟨[(⟨"/ws/lib/deep/a.ts"⟩, some []),
    (⟨"/ws/lib/index.ts"⟩, some []), (⟨"/ws/lib.ts"⟩, some [])]⟩ false

/-- Paths in the workspace go by their spelling. -/
theorem file_beside_directory_is_lexical : fileBesideDirectory.IsLexical where
  absolute := by decide
  plain := by decide +kernel
  storage := MemoryFiles.storage_is_lexical _ _

/-- An import of the directory of the importing file. -/
def importOfDirectory : RelativeImport where
  origin := ⟨"/ws/lib/index.ts"⟩
  specifier := "."
  absolute := by decide
  relative := by decide

/-- An import of the same place by its name. -/
def importByName : RelativeImport where
  origin := ⟨"/ws/lib/deep/a.ts"⟩
  specifier := "../../lib"
  absolute := by decide
  relative := by decide

/-- An import of the same place as the directory above that of the importing file. -/
def importOfParent : RelativeImport where
  origin := ⟨"/ws/lib/deep/a.ts"⟩
  specifier := ".."
  absolute := by decide
  relative := by decide

/-- A dot and a name lead to the file beside the directory. -/
theorem dot_and_name_agree :
    importOfDirectory.place fileBesideDirectory = importByName.place fileBesideDirectory ∧
    importOfDirectory.found fileBesideDirectory false = some ⟨"/ws/lib.ts"⟩ ∧
    importByName.found fileBesideDirectory false = some ⟨"/ws/lib.ts"⟩ := by
  obtain ⟨hplace, hsupports, hsupports', hnamed, hfound⟩ :
      importOfDirectory.place fileBesideDirectory = importByName.place fileBesideDirectory ∧
      fileBesideDirectory.supports importOfDirectory.origin = true ∧
      fileBesideDirectory.supports importByName.origin = true ∧
      importOfDirectory.named fileBesideDirectory = importByName.named fileBesideDirectory ∧
      importOfDirectory.found fileBesideDirectory false = some ⟨"/ws/lib.ts"⟩ := by
    decide +kernel
  have hagree := (relative_imports_agree_iff file_beside_directory_is_lexical
    (MemoryFiles.storage_looks_up_places _ _) importOfDirectory importByName hplace false false).mpr
    (Or.inr ⟨hsupports, hsupports', Or.inl hnamed⟩)
  exact ⟨hplace, hfound, hagree ▸ hfound⟩

/-- Two dots lead past the file beside the directory to the one inside it, although they name the
same place. -/
theorem two_dots_lead_elsewhere :
    fileBesideDirectory.IsLexical ∧ fileBesideDirectory.storage.LooksUpPlaces ∧
    importOfParent.place fileBesideDirectory = importByName.place fileBesideDirectory ∧
    importByName.found fileBesideDirectory false = some ⟨"/ws/lib.ts"⟩ ∧
    importOfParent.found fileBesideDirectory false = some ⟨"/ws/lib/index.ts"⟩ :=
  ⟨file_beside_directory_is_lexical, MemoryFiles.storage_looks_up_places _ _, by decide +kernel⟩

end Workspace

end CodeAtlas
