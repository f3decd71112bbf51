import CodeAtlas.Proofs.Path.Walk
import CodeAtlas.Proofs.Workspace.Change

/-!
# Storages that go by the spelling

`Storage.IsLexical` says that carrying out the dots of a path leads to what the path stands for.
Files in memory are like this, and so is a tree without symbolic links (`LinkFree.is_lexical`). In a
workspace with such a storage, `resolves_iff_holds` is the fact to read first: the paths that stand
for themselves are those that the workspace holds.
-/

namespace CodeAtlas

/-- A storage goes by the spelling of absolute paths: what has such a path has it without its dots
as well. -/
structure Storage.IsLexical (storage : Storage) : Prop where
  real_path : ∀ {path real : Path}, path.isAbsolute = true →
    storage.realPath path = .ok real → real = path.normalize
  is_file : ∀ {path : Path}, path.isAbsolute = true →
    storage.isFile path = true → storage.isFile path.normalize = true

/-- A workspace goes by the spelling if its storage does and its root is spelled plainly from the
top. -/
structure Workspace.IsLexical (workspace : Workspace) : Prop where
  absolute : workspace.root.isAbsolute = true
  plain : workspace.root.IsPlain
  storage : workspace.storage.IsLexical

/-- A path stands for itself, so it lies under the root and has no dots. -/
structure Workspace.Confines (workspace : Workspace) (path : Path) : Prop where
  resolve_eq : workspace.resolve path = .ok path
  starts_with : path.startsWith workspace.root = true
  no_dots : .current ∉ path.components ∧ .parent ∉ path.components

namespace Workspace

variable {workspace : Workspace}

/-- A path that a workspace with an absolute root holds is absolute. -/
theorem holds_is_absolute (habsolute : workspace.root.isAbsolute = true) {path : Path}
    (h : workspace.Holds path) : path.isAbsolute = true :=
  Path.is_absolute_of_starts_with habsolute h.2

/-- An absolute path is not looked for below the root. -/
theorem join_eq_of_absolute {directory path : Path} (h : path.isAbsolute = true) :
    directory.join path = path := by
  rw [Path.join, if_pos h]

/-- Where paths go by their spelling, a path stands for the one without its dots. -/
theorem IsLexical.resolve_eq (h : workspace.IsLexical) (path : Path) :
    workspace.resolve path =
      if (workspace.root.join path).normalize.startsWith workspace.root then
        .ok (workspace.root.join path).normalize
      else .error (.outside (if path.isAbsolute then "path outside workspace" else path.text)) := by
  have hresolved : (workspace.storage.realPath (workspace.root.join path)).toOption.getD
      (workspace.root.join path).normalize = (workspace.root.join path).normalize := by
    cases hreal : workspace.storage.realPath (workspace.root.join path) with
    | error fault => rfl
    | ok real => exact h.storage.real_path (Path.join_is_absolute h.absolute path) hreal
  rw [resolve, Storage.resolve, hresolved]

/-- Where paths go by their spelling, those that stand for themselves are those that are held. -/
theorem IsLexical.resolves_iff_holds (h : workspace.IsLexical) {path : Path} :
    workspace.resolve path = .ok path ↔ workspace.Holds path := by
  refine ⟨resolve_holds, fun hheld => ?_⟩
  have hjoin : workspace.root.join path = path :=
    join_eq_of_absolute (holds_is_absolute h.absolute hheld)
  have hplain : path.normalize = path := hheld.1
  rw [h.resolve_eq, hjoin, hplain, if_pos hheld.2]

/-- Where paths go by their spelling, whatever is held is confined. -/
theorem IsLexical.confines (h : workspace.IsLexical) {path : Path} (hheld : workspace.Holds path) :
    workspace.Confines path :=
  ⟨h.resolves_iff_holds.mpr hheld, hheld.2, Path.no_dots_of_plain hheld.1⟩

end Workspace

/-- Files in memory go by the spelling of their paths. -/
theorem MemoryFiles.storage_is_lexical (memory : MemoryFiles) (reversed : Bool) :
    (memory.storage reversed).IsLexical where
  real_path _ h := nomatch h
  is_file {path} _ h := by
    have hplain : path.normalize.normalize = path.normalize := Path.normalize_is_plain path
    simpa only [storage, content?, hplain] using h

namespace FileTree

variable {tree : FileTree}

/-- Steps lead where walking along them does, if no links are on the way. -/
theorem resolve_from_eq_walk {links : Nat} {place result : List String} {path : List Component}
    (hroot : .root ∉ path)
    (hlinks : ∀ front, front <+: path → ∀ target,
      tree.at? (front.foldl Path.walk place.reverse) ≠ some (.link target))
    (h : tree.resolveFrom links place path = .ok result) :
    result = path.foldl Path.walk place.reverse := by
  induction path generalizing place with
  | nil =>
      rw [resolveFrom] at h
      exact (Except.ok.inj h).symm
  | cons component rest ih =>
      obtain ⟨hcomponent, hrest⟩ := not_or.mp (mt List.mem_cons.mpr hroot)
      have hnext : ∀ front, front <+: rest → ∀ target,
          tree.at? (front.foldl Path.walk (Path.walk place.reverse component)) ≠
            some (.link target) :=
        fun front hfront => hlinks (component :: front) (List.cons_prefix_cons.mpr ⟨rfl, hfront⟩)
      rw [resolveFrom] at h
      rw [List.foldl_cons]
      split at h
      · next entries hplace =>
          cases component with
          | root => exact absurd rfl hcomponent
          | current => exact ih hrest hnext h
          | parent =>
              have hup : Path.walk place.reverse .parent = (place.drop 1).reverse := by
                cases place with
                | nil => rfl
                | cons name above =>
                    rw [Path.walk, List.reverse_cons, List.dropLast_concat]
                    rfl
              rw [hup] at hnext ⊢
              exact ih hrest hnext h
          | name name =>
              have hdown : Path.walk place.reverse (.name name) = (name :: place).reverse := by
                rw [Path.walk, List.reverse_cons]
              rw [hdown] at hnext ⊢
              dsimp only at h
              split at h
              · contradiction
              · next target hfound =>
                  have hlink : tree.at? (name :: place).reverse = some (.link target) := by
                    rw [at_entry hplace, hfound]
                    rfl
                  exact absurd hlink (hnext [] List.nil_prefix target)
              · exact ih hrest hnext h
      · contradiction
      · contradiction

/-- The segments of a path are its steps, but for those that stay where they are. -/
theorem filter_steps (path : Path) : (steps path).filter (· ≠ .current) = path.segments := by
  have hsegments : ∀ parts : List Text, (∀ part ∈ parts, '/' ∉ part) →
      (parts.map fun part => (Path.segmentComponent? part).getD .current).filter (· ≠ .current) =
        parts.filterMap Path.segmentComponent? := by
    intro parts hparts
    induction parts with
    | nil => rfl
    | cons part rest ih =>
        obtain ⟨hpart, hrest⟩ := List.forall_mem_cons.mp hparts
        cases hsegment : Path.segmentComponent? part with
        | none =>
            rw [List.map_cons, hsegment, List.filterMap_cons_none hsegment, ← ih hrest]
            rfl
        | some component =>
            have hinner := Path.is_inner_of_segment hpart hsegment
            have hkept : component ≠ .current := by
              rintro rfl
              rcases hinner with hparent | ⟨_, -, hname⟩
              · cases hparent
              · cases hname
            rw [List.map_cons, hsegment, List.filterMap_cons_some hsegment, Option.getD_some,
              List.filter_cons,
              if_pos (decide_eq_true hkept), ih hrest]
  exact hsegments _ fun part hpart => Path.not_mem_of_mem_split_by hpart

/-- Steps lead where the segments do. -/
theorem foldl_steps (path : Path) (place : List String) :
    (steps path).foldl Path.walk place = path.segments.foldl Path.walk place := by
  rw [← filter_steps, Path.foldl_walk_filter]

/-- The top is no step. -/
theorem root_not_mem_steps (path : Path) : .root ∉ steps path := by
  intro h
  obtain ⟨part, hpart, hroot⟩ := List.mem_map.mp h
  cases hsegment : Path.segmentComponent? part with
  | none =>
      rw [hsegment] at hroot
      contradiction
  | some component =>
      rw [hsegment] at hroot
      obtain rfl : component = .root := hroot
      exact path.root_not_mem_segments (List.mem_filterMap.mpr ⟨part, hpart, hsegment⟩)

/-- Without links, an absolute path leads along its names without dots. -/
theorem LinkFree.normalize_eq (hlinks : tree.LinkFree) {path : Path}
    (habsolute : path.isAbsolute = true) {names : List String}
    (h : tree.resolve path = .ok names) : path.normalize = pathOf names := by
  rw [Path.normalize_eq_walk habsolute, ← foldl_steps, pathOf]
  rw [resolve_from_eq_walk (root_not_mem_steps path) (fun _ _ => hlinks _) h]
  rfl

/-- Nothing is resolved at the top of a tree that is a file. -/
theorem ne_nil_of_resolve {path : Path} {names : List String} {text : Option Text}
    (h : tree.resolve path = .ok names) (hfile : tree.at? names = some (.file text)) :
    names ≠ [] := by
  rintro rfl
  obtain rfl : tree = .file text := Option.some.inj hfile
  cases hsteps : steps path with
  | nil => exact absurd (List.map_eq_nil_iff.mp hsteps) (Text.split_by_ne_nil _ _)
  | cons component rest =>
      rw [resolve, hsteps, resolveFrom] at h
      contradiction

/-- A tree without links goes by the spelling of paths. -/
theorem LinkFree.is_lexical (hlinks : tree.LinkFree) (root : Path) :
    (tree.storage root).IsLexical where
  real_path {path real} habsolute h := by
    have hreal : (tree.resolve path).map pathOf = .ok real := h
    cases hnames : tree.resolve path with
    | error fault =>
        rw [hnames] at hreal
        contradiction
    | ok names =>
        rw [hnames] at hreal
        rw [hlinks.normalize_eq habsolute hnames]
        exact (Except.ok.inj hreal).symm
  is_file {path} habsolute h := by
    have hfile : tree.isFile path = true := h
    change tree.isFile path.normalize = true
    unfold isFile at hfile
    split at hfile
    · next text heq =>
        cases hresolve : tree.resolve path with
        | error fault =>
            rw [hresolve] at heq
            contradiction
        | ok names =>
            rw [hresolve] at heq
            have hat : tree.at? names = some (.file text) := heq
            have hnames := resolve_from_names (by simp) (fun _ => is_name_of_mem_steps) hresolve
            have hplain : tree.resolve (pathOf names) = .ok names :=
              resolve_of_at hnames (ne_nil_of_resolve hresolve hat) hat
            rw [hlinks.normalize_eq habsolute hresolve, isFile, hplain, Except.toOption,
              Option.bind_some, hat]
    · contradiction

end FileTree

end CodeAtlas
